import ChainLint.Text.LineEnd
import ChainLint.Text.Surrogate
/-!
# The text of a file

Files hold UTF-8. A line may end in a line feed, a carriage return or both; the
text that is read has line feeds only.
-/

namespace ChainLint.FileText

/-- The text of a file; none if its bytes are no UTF-8. -/
def decode? (content : ByteArray) : Option String :=
  (String.fromUTF8? content).map fun s => String.ofList (Text.unifyLineEnds s.toList)

/-- A text without carriage returns is read back. -/
theorem decode?_toUTF8 {s : String} (h : '\r' ∉ s.toList) : decode? s.toUTF8 = some s := by
  have read : String.fromUTF8? s.toUTF8 = some s := dif_pos s.isValidUTF8
  rw [decode?, read, Option.map_some, Text.unifyLineEnds_of_not_mem h, String.ofList_toList]

/-- Whether a text can be written: it holds no half of a surrogate pair. -/
def isEncodable (s : String) : Bool := s.toList.all fun c => (Text.Surrogate.unit? c).isNone

end ChainLint.FileText
