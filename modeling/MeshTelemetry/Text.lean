import MeshTelemetry.Bytes

/-!
# Text

Text options and form bodies are UTF-8. A list of path segments or of query terms is stored as one
text with a separator between its parts, and goes to the wire part by part. Splitting never yields
the empty list: the empty text has one empty part.
-/

namespace MeshTelemetry.Text

def utf8 (text : String) : Bytes :=
  text.toByteArray.data.toList

/-- The text that the bytes encode, if they are valid UTF-8. -/
def ofUtf8? (bytes : Bytes) : Option String :=
  String.fromUTF8? ⟨bytes.toArray⟩

def split (separator : Char) (text : String) : List String :=
  (text.toList.splitOn separator).map String.ofList

def join (separator : Char) (parts : List String) : String :=
  String.ofList ([separator].intercalate (parts.map String.toList))

/-- The text without the run of `mark` that it starts with. -/
def dropLeading (mark : Char) (text : String) : String :=
  String.ofList (text.toList.dropWhile (· == mark))

/-- The text before and after the first `mark`. -/
def cutFirst? (mark : Char) (text : String) : Option (String × String) :=
  match text.toList.span (· != mark) with
  | (_, []) => none
  | (before, _ :: after) => some (String.ofList before, String.ofList after)

/-- The value of the first `name=value` term among the terms that `&` separates. A term without
`=` names nothing and is passed over. -/
def formVariable? (name text : String) : Option String :=
  (split '&' text).findSome? fun term =>
    match cutFirst? '=' term with
    | some (key, value) => if key = name then some value else none
    | none => none

theorem ofUtf8?_utf8 (text : String) : ofUtf8? (utf8 text) = some text := by
  have h : (⟨(utf8 text).toArray⟩ : ByteArray) = text.toByteArray := by
    simp [utf8]
  unfold ofUtf8?
  rw [h, String.fromUTF8?, dif_pos text.isValidUTF8]
  rfl

theorem join_split (separator : Char) (text : String) :
    join separator (split separator text) = text := by
  simp [join, split, List.map_map, Function.comp_def, List.intercalate_splitOn]

end MeshTelemetry.Text
