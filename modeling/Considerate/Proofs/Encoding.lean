import Considerate.Proofs.Json.Written
import Considerate.Settings.Load
import Considerate.Status

namespace Considerate

namespace Decode

variable {α : Type}

theorem list_map {d : Decoder α} {f : α → Json} {as : List α} (h : ∀ a ∈ as, d (f a) = .ok a) :
    Decode.list d (.arr (as.map f)) = .ok as := by
  rw [Decode.list]
  induction as with
  | nil => rfl
  | cons a as ih =>
    have later := ih fun a ha => h a (List.mem_cons_of_mem _ ha)
    rw [List.map_cons, List.mapM_cons, h a List.mem_cons_self, later]
    rfl

theorem option_of_ok {d : Decoder α} {j : Json} {a : α} (value : j.isNull = false)
    (h : d j = .ok a) : option d j = .ok (some a) := by
  cases j with
  | null => cases value
  | _ => simp only [option, h, Except.map]

theorem uint32_toNat (n : UInt32) : uint32 (.int n.toNat) = .ok n := by
  have bound := n.toNat_lt
  have fits : (0 : Int) ≤ n.toNat ∧ (n.toNat : Int) ≤ 0xFFFFFFFF := by omega
  rw [uint32, integer, if_pos fits, Except.map, Int.toNat_natCast, UInt32.ofNat_toNat]

theorem uint64_toNat (n : UInt64) : uint64 (.int n.toNat) = .ok n := by
  have bound := n.toNat_lt
  have fits : (0 : Int) ≤ n.toNat ∧ (n.toNat : Int) ≤ 0xFFFFFFFFFFFFFFFF := by omega
  rw [uint64, integer, if_pos fits, Except.map, Int.toNat_natCast, UInt64.ofNat_toNat]

theorem option_numberOrNull (n : Option UInt32) : option uint32 (numberOrNull n) = .ok n := by
  cases n with
  | none => rfl
  | some n => exact option_of_ok rfl (uint32_toNat n)

end Decode

open Decode

theorem Settings.decode_toJson (s : Settings) : decode s.toJson = .ok s := by
  obtain ⟨allow, deny, noBinary, sureness, strategy⟩ := s
  have strings : ∀ xs : List String, Decode.list string (.arr (xs.map .str)) = .ok xs :=
    fun xs => list_map fun _ _ => rfl
  have sure : variant Sureness.all Sureness.name (.str sureness.name) = .ok sureness := by
    cases sureness <;> rfl
  have when : variant Strategy.all Strategy.name (.str strategy.name) = .ok strategy := by
    cases strategy <;> rfl
  simp only [decode, toJson, record, List.foldlM_cons, put, strings, sure, when, Except.map]
  rfl

theorem Settings.ofJson_toJson (s : Settings) :
    ofJson s.toJson = if s.allow = [] ∨ s.deny = [] then .ok s else .error .conflicting := by
  have conflicting : s.conflicting = true ↔ ¬ (s.allow = [] ∨ s.deny = []) := by
    simp [Settings.conflicting]
  rw [ofJson, decode_toJson]
  simp only [conflicting, ite_not]

theorem Point.decode_toJson (p : Point) : decode p.toJson = .ok p := by
  simp only [decode, toJson, record, List.foldlM_cons, put, option_numberOrNull, Except.map]
  rfl

theorem Location.decode_toJson (l : Location) : decode l.toJson = .ok l := by
  simp only [decode, toJson, record, List.foldlM_cons, put, Point.decode_toJson, Except.map]
  rfl

theorem Message.decode_toJson (m : Message) : decode m.toJson = .ok m := by
  obtain ⟨reason, ruleId, fatal, line, column, location⟩ := m
  have number : ∀ n : UInt32, option uint32 (.int n.toNat) = .ok (some n) :=
    fun n => option_of_ok rfl (uint32_toNat n)
  have read : record shape {} put (toJson ⟨reason, ruleId, fatal, line, column, location⟩) =
      .ok ⟨some reason, some ruleId, fatal, line, column, location⟩ := by
    cases column <;> cases fatal <;> cases line <;>
    · simp only [toJson, record, optionalField, List.cons_append, List.nil_append,
        List.foldlM_cons, put, number, Location.decode_toJson, Except.map]
      rfl
  rw [decode, read]
  rfl

theorem Status.decode_toJson (s : Status) (urls : ∀ u ∈ s.documents, Url.parse u.text = .ok u) :
    decode s.toJson = .ok s := by
  obtain ⟨id, phase, documents, fileName, elapsed⟩ := s
  have number : ∀ n : UInt64, option uint64 (.int n.toNat) = .ok (some n) :=
    fun n => option_of_ok rfl (uint64_toNat n)
  have named : variant Phase.all Phase.name (.str phase.name) = .ok phase := by
    cases phase <;> rfl
  have opened : Decode.list decodeDocument
      (.arr (documents.map fun u => .obj [("documentUri", u.toJson)])) = .ok documents := by
    refine list_map fun u hu => ?_
    have url : Url.decode u.toJson = .ok u := by
      simp [Url.decode, Url.toJson, urls u hu]
    simp only [decodeDocument, record, List.foldlM_cons, putUrl, url, Except.map]
    rfl
  have read : record shape {} put (toJson ⟨id, phase, documents, fileName, elapsed⟩) =
      .ok ⟨some id, some phase, some documents, fileName, elapsed⟩ := by
    cases fileName <;> cases elapsed <;>
    · simp only [toJson, record, optionalField, List.cons_append, List.nil_append,
        List.foldlM_cons, put, number, named, opened, uint64_toNat, Except.map]
      rfl
  rw [decode, read]
  rfl

theorem Settings.plain_toJson (s : Settings) : Json.Plain s.toJson := by
  have strings : ∀ xs : List String, Json.Plain (.arr (xs.map .str)) :=
    fun xs => .arr _ (List.forall_mem_map.mpr fun x _ => .str x)
  have keys : ["allow", "deny", "noBinary", "profanitySureness", "strategy"].Pairwise (· < ·) := by
    decide
  refine .object keys ?_
  simp only [List.forall_mem_cons, List.not_mem_nil, false_implies, implies_true, and_true]
  exact ⟨strings s.allow, strings s.deny, .bool _, .str _, .str _⟩

theorem plain_number (n : UInt32) : Json.Plain (.int n.toNat) := by
  have bound := n.toNat_lt
  exact .int _ (by omega) (by omega)

theorem Point.plain_toJson (p : Point) : Json.Plain p.toJson := by
  have known : ∀ n, Json.Plain (numberOrNull n) := by
    intro n
    cases n with
    | none => exact .null
    | some n => exact plain_number n
  have keys : ["column", "line"].Pairwise (· < ·) := by decide
  refine .object keys ?_
  simp only [List.forall_mem_cons, List.not_mem_nil, false_implies, implies_true, and_true]
  exact ⟨known p.column, known p.line⟩

theorem Location.plain_toJson (l : Location) : Json.Plain l.toJson := by
  have keys : ["end", "start"].Pairwise (· < ·) := by decide
  refine .object keys ?_
  simp only [List.forall_mem_cons, List.not_mem_nil, false_implies, implies_true, and_true]
  exact ⟨l.stop.plain_toJson, l.start.plain_toJson⟩

theorem plain_optionalField {α : Type} {name : String} {f : α → Json} (h : ∀ a, Json.Plain (f a))
    (o : Option α) : ∀ x ∈ optionalField name f o, Json.Plain x.2 := by
  cases o with
  | none => simp [optionalField]
  | some a => simpa [optionalField] using h a

theorem keys_optionalField {α : Type} (name : String) (f : α → Json) (o : Option α) :
    ((optionalField name f o).map Prod.fst).Sublist [name] := by
  cases o with
  | none => exact List.nil_sublist _
  | some a => exact List.Sublist.refl _

theorem Message.plain_toJson (m : Message) : Json.Plain m.toJson := by
  have keys : ["column", "fatal", "line", "location", "reason", "rule_id"].Pairwise (· < ·) := by
    decide
  refine .object (keys.sublist ?_) ?_
  · rw [List.map_append, List.map_append, List.map_append]
    exact (((keys_optionalField ..).append (keys_optionalField ..)).append
      (keys_optionalField ..)).append (List.Sublist.refl ["location", "reason", "rule_id"])
  · simp only [List.forall_mem_append, List.forall_mem_cons, List.not_mem_nil, false_implies,
      implies_true, and_true]
    exact ⟨⟨⟨plain_optionalField plain_number _, plain_optionalField .bool _⟩,
      plain_optionalField plain_number _⟩, m.location.plain_toJson, .str _, .str _⟩

/-- Settings are read back from their JSON and from its texts, if they do not name both rules to
leave out and rules to keep, which is a fault otherwise. Messages are read back from their JSON, and
so are statuses whose URLs have texts that are read back. -/
theorem decoding_undoes_encoding :
    (∀ s : Settings,
      let read := if s.allow = [] ∨ s.deny = [] then .ok s else .error SettingsError.conflicting
      Settings.ofJson s.toJson = read ∧ Settings.ofText s.toJson.compact = read ∧
        Settings.ofText s.toJson.pretty = read) ∧
    (∀ m : Message, Message.decode m.toJson = .ok m) ∧
    ∀ s : Status, (∀ u ∈ s.documents, Url.parse u.text = .ok u) →
      Status.decode s.toJson = .ok s := by
  refine ⟨fun s => ?_, Message.decode_toJson, Status.decode_toJson⟩
  obtain ⟨line, lines⟩ := s.plain_toJson.read
  have read := s.ofJson_toJson
  refine ⟨read, ?_, ?_⟩
  · rw [Settings.ofText, line]
    exact read
  · rw [Settings.ofText, lines]
    exact read

/-- A status of two documents, whose URLs have all kinds of parts. -/
theorem decoding_undoes_encoding_of_status :
    let u : Url := {
      scheme := "file", authority := some { host := "" }, path := .segments ["tmp", "a%20b.md"] }
    let v : Url := {
      scheme := "https", path := .segments ["y"], query := some "q", fragment := some "f"
      authority := some { credentials := "me@", host := "example.org", port := some 81 } }
    let s : Status := { id := 7, phase := .stop, documents := [u, v], elapsed := some 12 }
    (∀ w ∈ s.documents, Url.parse w.text = .ok w) ∧ Status.decode s.toJson = .ok s := by
  intro u v s
  have urls : ∀ w ∈ s.documents, Url.parse w.text = .ok w := by decide +kernel
  exact ⟨urls, decoding_undoes_encoding.2.2 s urls⟩

end Considerate
