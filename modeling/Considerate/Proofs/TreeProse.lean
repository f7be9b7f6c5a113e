import Considerate.Proofs.HtmlPieces

namespace Considerate.Markup.Node

open Text

/-- The nodes that a node is made of. Text and leaves are made of none. -/
def children : Node → List Node
  | branch _ _ ns => ns
  | _ => []

/-- The node at a path, each step of which is the number of a child, from 0. -/
def at? (n : Node) : List Nat → Option Node
  | [] => some n
  | i :: path => n.children[i]?.bind (·.at? path)

/-- The children of each node lie in it, one behind the other. -/
inductive Nested : Node → Prop
  | text (s : Span) : Nested (.text s)
  | leaf (s : Span) : Nested (.leaf s)
  | branch (kind : Kind) (s : Span) (children : List Node)
      (within : ∀ n ∈ children, s.start ≤ n.span.start ∧ n.span.stop ≤ s.stop)
      (ordered : children.Pairwise fun a b => a.span.stop ≤ b.span.start)
      (nested : ∀ n ∈ children, Nested n) : Nested (.branch kind s children)

mutual

def texts : Node → List (List Nat × Span)
  | text s => [([], s)]
  | leaf _ => []
  | branch _ _ children => textsFrom 0 children

def textsFrom (i : Nat) : List Node → List (List Nat × Span)
  | [] => []
  | n :: ns => n.texts.map (fun t => (i :: t.1, t.2)) ++ textsFrom (i + 1) ns

end

@[induction_eliminator]
theorem induct {motive : Node → Prop} (text : ∀ s, motive (.text s)) (leaf : ∀ s, motive (.leaf s))
    (branch : ∀ kind s children, (∀ n ∈ children, motive n) → motive (.branch kind s children)) :
    ∀ n, motive n
  | .text s => text s
  | .leaf s => leaf s
  | .branch kind s children => branch kind s children fun n _ => induct text leaf branch n

variable {tree n m : Node} {ns : List Node} {path later : List Nat} {s : Span} {i : Nat}

@[simp] theorem nested_text (s : Span) : (Node.text s).Nested := .text s

@[simp] theorem nested_leaf (s : Span) : (Node.leaf s).Nested := .leaf s

@[simp] theorem nested_branch_iff {kind : Kind} : (Node.branch kind s ns).Nested ↔
    (∀ n ∈ ns, s.start ≤ n.span.start ∧ n.span.stop ≤ s.stop) ∧
      (ns.Pairwise fun a b => a.span.stop ≤ b.span.start) ∧ ∀ n ∈ ns, n.Nested := by
  constructor
  · rintro (_ | _ | ⟨_, _, _, within, ordered, nested⟩)
    exact ⟨within, ordered, nested⟩
  · exact fun ⟨within, ordered, nested⟩ => .branch kind s ns within ordered nested

theorem map_textsFrom (h : ∀ n ∈ ns, n.texts.map Prod.snd = n.prose) (i : Nat) :
    (textsFrom i ns).map Prod.snd = proseAll ns := by
  induction ns generalizing i with
  | nil => rfl
  | cons n ns ih =>
    obtain ⟨first, rest⟩ := List.forall_mem_cons.mp h
    rw [textsFrom, List.map_append, List.map_map, proseAll, ih rest, ← first]
    rfl

theorem map_texts (n : Node) : n.texts.map Prod.snd = n.prose := by
  induction n with
  | text s => rfl
  | leaf s => rfl
  | branch kind s children ih => exact map_textsFrom ih 0

/-- A text node of the children is one of the child that the path starts with. -/
theorem mem_textsFrom_iff : (path, s) ∈ textsFrom i ns ↔
    ∃ j n rest, ns[j]? = some n ∧ path = (i + j) :: rest ∧ (rest, s) ∈ n.texts := by
  induction ns generalizing i with
  | nil => simp [textsFrom]
  | cons n ns ih =>
    rw [textsFrom, List.mem_append, List.mem_map, ih]
    constructor
    · rintro (⟨⟨rest, s⟩, mem, same⟩ | ⟨j, n, rest, hn, rfl, mem⟩)
      · cases same
        exact ⟨0, n, rest, rfl, rfl, mem⟩
      · exact ⟨j + 1, n, rest, hn, by rw [Nat.add_right_comm, Nat.add_assoc], mem⟩
    · rintro ⟨j, n', rest, hn, rfl, mem⟩
      cases j with
      | zero =>
        cases hn
        exact Or.inl ⟨_, mem, rfl⟩
      | succ j => exact Or.inr ⟨j, n', rest, hn, by rw [Nat.add_right_comm, Nat.add_assoc], mem⟩

theorem mem_texts_iff : (path, s) ∈ n.texts ↔ n.at? path = some (.text s) := by
  induction n generalizing path with
  | text s' => cases path <;> simp [texts, at?, children, eq_comm]
  | leaf s' => cases path <;> simp [texts, at?, children]
  | branch kind s' ns ih =>
    rw [texts, mem_textsFrom_iff]
    cases path with
    | nil => simp [at?]
    | cons i path =>
      rw [at?, children, Option.bind_eq_some_iff]
      constructor
      · rintro ⟨j, n, rest, hn, same, mem⟩
        rw [Nat.zero_add, List.cons.injEq] at same
        obtain ⟨rfl, rfl⟩ := same
        exact ⟨n, hn, (ih n (List.mem_of_getElem? hn)).mp mem⟩
      · rintro ⟨n, hn, found⟩
        exact ⟨i, n, path, hn, by rw [Nat.zero_add], (ih n (List.mem_of_getElem? hn)).mpr found⟩

theorem pairwise_textsFrom (h : ∀ n ∈ ns, n.texts.Pairwise fun a b => a.1 < b.1) (i : Nat) :
    (textsFrom i ns).Pairwise fun a b => a.1 < b.1 := by
  induction ns generalizing i with
  | nil => exact .nil
  | cons n ns ih =>
    obtain ⟨first, rest⟩ := List.forall_mem_cons.mp h
    rw [textsFrom, List.pairwise_append, List.pairwise_map]
    refine ⟨first.imp fun lt => List.cons_lt_cons_iff.mpr (Or.inr ⟨rfl, lt⟩), ih rest _, ?_⟩
    intro a ha b hb
    obtain ⟨t, _, rfl⟩ := List.mem_map.mp ha
    obtain ⟨j, _, rest, _, path, _⟩ := mem_textsFrom_iff.mp hb
    rw [path]
    exact List.cons_lt_cons_iff.mpr (Or.inl (by omega))

/-- The text nodes are in document order. -/
theorem pairwise_texts (n : Node) : n.texts.Pairwise fun a b => a.1 < b.1 := by
  induction n with
  | text s => exact List.pairwise_singleton ..
  | leaf s => exact .nil
  | branch kind s children ih => exact pairwise_textsFrom ih 0

theorem at?_cons_iff :
    tree.at? (i :: path) = some n ↔ ∃ child, tree.children[i]? = some child ∧
      child.at? path = some n := by
  rw [at?, Option.bind_eq_some_iff]

theorem Nested.child (nested : tree.Nested) (h : n ∈ tree.children) :
    n.Nested ∧ tree.span.start ≤ n.span.start ∧ n.span.stop ≤ tree.span.stop := by
  cases nested with
  | text => cases h
  | leaf => cases h
  | branch kind s ns within ordered nested => exact ⟨nested n h, within n h⟩

theorem Nested.pairwise_children (nested : tree.Nested) :
    tree.children.Pairwise fun a b => a.span.stop ≤ b.span.start := by
  cases nested with
  | text => exact .nil
  | leaf => exact .nil
  | branch kind s ns within ordered nested => exact ordered

theorem Nested.within (nested : tree.Nested) (found : tree.at? path = some n) :
    tree.span.start ≤ n.span.start ∧ n.span.stop ≤ tree.span.stop := by
  induction path generalizing tree with
  | nil =>
    cases found
    exact ⟨Nat.le_refl _, Nat.le_refl _⟩
  | cons i path ih =>
    obtain ⟨child, hc, found⟩ := at?_cons_iff.mp found
    obtain ⟨nested, start, stop⟩ := nested.child (List.mem_of_getElem? hc)
    obtain ⟨start', stop'⟩ := ih nested found
    exact ⟨start.trans start', stop'.trans stop⟩

/-- A node comes behind one without children if its path does. -/
theorem Nested.behind (nested : tree.Nested) (found : tree.at? path = some n)
    (found' : tree.at? later = some m) (lt : path < later) (childless : n.children = []) :
    n.span.stop ≤ m.span.start := by
  induction path generalizing tree later with
  | nil =>
    cases found
    cases later with
    | nil => exact (List.lt_irrefl _ lt).elim
    | cons j later =>
      rw [at?, childless] at found'
      cases found'
  | cons i path ih =>
    cases later with
    | nil => exact (List.not_lt_nil _ lt).elim
    | cons j later =>
      obtain ⟨a, ha, found⟩ := at?_cons_iff.mp found
      obtain ⟨b, hb, found'⟩ := at?_cons_iff.mp found'
      obtain ⟨nested_a, _⟩ := nested.child (List.mem_of_getElem? ha)
      rcases List.cons_lt_cons_iff.mp lt with first | ⟨rfl, rest⟩
      · -- The paths part here, and so do the children.
        obtain ⟨nested_b, _⟩ := nested.child (List.mem_of_getElem? hb)
        obtain ⟨hi, rfl⟩ := List.getElem?_eq_some_iff.mp ha
        obtain ⟨hj, rfl⟩ := List.getElem?_eq_some_iff.mp hb
        have apart := List.pairwise_iff_getElem.mp nested.pairwise_children i j hi hj first
        exact (nested_a.within found).2.trans (apart.trans (nested_b.within found').1)
      · cases ha.symm.trans hb
        exact ih nested_a found found' rest

/-- The prose of a tree are the stretches of its text nodes, each once and in document order, which is
the order of the paths to them. If the children of each node lie in it, one behind the other, then
each stretch stops before the next one starts, and none shares a byte with a node without children
that is not text. -/
theorem prose_of_nested (tree : Node) (nested : tree.Nested) :
    (∃ found : List (List Nat × Span), found.map Prod.snd = tree.prose ∧
      (∀ path s, (path, s) ∈ found ↔ tree.at? path = some (.text s)) ∧
      found.Pairwise fun a b => a.1 < b.1) ∧
    tree.prose.Pairwise (fun a b => a.stop ≤ b.start) ∧
    ∀ path n, tree.at? path = some n → n.children = [] → (∀ s, n ≠ .text s) →
      ∀ s ∈ tree.prose, ∀ byte, ¬ (s.holds byte = true ∧ n.span.holds byte = true) := by
  refine ⟨⟨tree.texts, map_texts tree, fun path s => mem_texts_iff, pairwise_texts tree⟩, ?_, ?_⟩
  · rw [← map_texts, List.pairwise_map]
    refine (pairwise_texts tree).imp_of_mem fun {a b} ha hb lt => ?_
    exact nested.behind (mem_texts_iff.mp ha) (mem_texts_iff.mp hb) lt rfl
  · rintro path n found childless other s hs byte ⟨inText, inNode⟩
    rw [← map_texts] at hs
    obtain ⟨⟨path', s⟩, mem, rfl⟩ := List.mem_map.mp hs
    have text := mem_texts_iff.mp mem
    rw [Span.holds_iff] at inText inNode
    rcases lt_trichotomy path path' with before | rfl | behind
    · have : n.span.stop ≤ s.start := nested.behind found text before childless
      omega
    · cases found.symm.trans text
      exact other s rfl
    · have : s.stop ≤ n.span.start := nested.behind text found behind rfl
      omega

/-- A list item in which emphasised text ends with code. -/
theorem prose_of_nested_around_code :
    ∃ tree, read .github "- a *b `c`* d\n".toList = .ok tree ∧ tree.Nested ∧
      (tree.at? [0, 0, 1, 1] = some (.leaf ⟨7, 10⟩) ∧ (Node.leaf ⟨7, 10⟩).children = [] ∧
        ∀ s, Node.leaf ⟨7, 10⟩ ≠ .text s) ∧
      (∃ found : List (List Nat × Span), found.map Prod.snd = [⟨2, 4⟩, ⟨5, 7⟩, ⟨11, 13⟩] ∧
        (∀ path s, (path, s) ∈ found ↔ tree.at? path = some (.text s)) ∧
        found.Pairwise fun a b => a.1 < b.1) ∧
      [Span.mk 2 4, ⟨5, 7⟩, ⟨11, 13⟩].Pairwise (fun a b => a.stop ≤ b.start) ∧
      ∀ s ∈ [Span.mk 2 4, ⟨5, 7⟩, ⟨11, 13⟩], ∀ byte,
        ¬ (s.holds byte = true ∧ Span.holds ⟨7, 10⟩ byte = true) := by
  let emphasis : Node := .branch .emphasis ⟨4, 11⟩ [.text ⟨5, 7⟩, .leaf ⟨7, 10⟩]
  let paragraph : Node := .branch .paragraph ⟨2, 13⟩ [.text ⟨2, 4⟩, emphasis, .text ⟨11, 13⟩]
  let tree : Node := .branch .document ⟨0, 14⟩ [.branch .item ⟨0, 13⟩ [paragraph]]
  have nested : tree.Nested := by simp [tree, paragraph, emphasis, span]
  have code : tree.at? [0, 0, 1, 1] = some (.leaf ⟨7, 10⟩) := rfl
  obtain ⟨found, ordered, apart⟩ := prose_of_nested tree nested
  have other : ∀ s, Node.leaf ⟨7, 10⟩ ≠ .text s := fun s => by simp
  refine ⟨tree, by with_unfolding_all rfl, nested, ⟨code, rfl, other⟩, found, ordered, ?_⟩
  exact apart _ _ code rfl other

end Considerate.Markup.Node
