import Considerate.Url.Basic
import Considerate.Url.Percent

namespace Considerate.Url

def filePath? (u : Url) : Option String :=
  let isLocal := match u.authority with
    | none => true
    | some a => a.host.isEmpty
  if u.scheme = "file" && isLocal then
    String.fromUTF8? ⟨(Percent.decode u.path.text.toList).toArray⟩
  else none

end Considerate.Url
