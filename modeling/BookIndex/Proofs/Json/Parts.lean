import BookIndex.Json.Reader

/-!
# Json.Parts — a value from its parts

`parts` lists the parts of a value without regard to layout.  The reader completes the value on its
last part and changes none of the containers that are open around it (`foldlM_parts`), so the parts
of a value are read as the value (`read_parts`), however deep it is nested.
-/

namespace BookIndex.Json

open Reader

mutual

/-- The parts of a value, in their order. -/
def parts : Json → List Lexeme
  | .array [] => [.beginArray, .endArray]
  | .array (item :: items) => .beginArray :: parts item ++ itemParts items ++ [.endArray]
  | .object [] => [.beginObject, .endObject]
  | .object ((name, value) :: members) =>
    .beginObject :: .scalar (.string name) :: .colon :: parts value ++ memberParts members ++
      [.endObject]
  | value => [.scalar value]

/-- The parts of the items after the first. -/
def itemParts : List Json → List Lexeme
  | [] => []
  | item :: items => .comma :: parts item ++ itemParts items

/-- The parts of the members after the first. -/
def memberParts : List (String × Json) → List Lexeme
  | [] => []
  | (name, value) :: members =>
    .comma :: .scalar (.string name) :: .colon :: parts value ++ memberParts members

end

/-- Where an array may end, its first item is read as any value. -/
theorem foldlM_parts_firstItem (j : Json) (around : List Container) :
    j.parts.foldlM step ⟨.firstItem, around⟩ = j.parts.foldlM step ⟨.value, around⟩ := by
  cases j with
  | null | bool _ | number _ | string _ => rfl
  | array items => cases items <;> rfl
  | object members => cases members <;> rfl

mutual

/-- The parts of a value complete it inside of the containers around it. -/
theorem foldlM_parts (j : Json) (around : List Container) :
    j.parts.foldlM step ⟨.value, around⟩ = some (complete j around) := by
  match j with
  | .null | .bool _ | .number _ | .string _ => rfl
  | .array [] => rfl
  | .array (item :: items) =>
    show (parts item ++ itemParts items ++ [Lexeme.endArray]).foldlM step
      ⟨.firstItem, .array [] :: around⟩ = _
    rw [List.append_assoc, List.foldlM_append, foldlM_parts_firstItem, foldlM_parts item]
    exact foldlM_itemParts items [item] around
  | .object [] => rfl
  | .object ((name, value) :: members) =>
    show (parts value ++ memberParts members ++ [Lexeme.endObject]).foldlM step
      ⟨.value, .object [] name :: around⟩ = _
    rw [List.append_assoc, List.foldlM_append, foldlM_parts value]
    exact foldlM_memberParts members [(name, value)] name around

/-- The other items and the end of an array complete it. -/
theorem foldlM_itemParts (items seen : List Json) (around : List Container) :
    (itemParts items ++ [Lexeme.endArray]).foldlM step ⟨.more, .array seen :: around⟩ =
      some (complete (.array (seen.reverse ++ items)) around) := by
  match items with
  | [] => rw [List.append_nil]; rfl
  | item :: items =>
    show (parts item ++ itemParts items ++ [Lexeme.endArray]).foldlM step
      ⟨.value, .array seen :: around⟩ = _
    rw [List.append_assoc, List.foldlM_append, foldlM_parts item,
      List.append_cons seen.reverse, ← List.reverse_cons]
    exact foldlM_itemParts items (item :: seen) around

/-- The other members and the end of an object complete it. -/
theorem foldlM_memberParts (members seen : List (String × Json)) (name : String)
    (around : List Container) :
    (memberParts members ++ [Lexeme.endObject]).foldlM step ⟨.more, .object seen name :: around⟩ =
      some (complete (.object (seen.reverse ++ members)) around) := by
  match members with
  | [] => rw [List.append_nil]; rfl
  | (next, value) :: members =>
    show (parts value ++ memberParts members ++ [Lexeme.endObject]).foldlM step
      ⟨.value, .object seen next :: around⟩ = _
    rw [List.append_assoc, List.foldlM_append, foldlM_parts value,
      List.append_cons seen.reverse, ← List.reverse_cons]
    exact foldlM_memberParts members ((next, value) :: seen) next around

end

/-- The parts of a value are read as the value. -/
theorem read_parts (j : Json) : (j.parts.foldlM step start).bind finish? = some j := by
  rw [start, foldlM_parts]
  rfl

end BookIndex.Json
