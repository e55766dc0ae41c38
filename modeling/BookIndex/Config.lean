import BookIndex.Collation

/-!
# Config — how an index is laid out

A configuration says how many columns a letter group has, which letters head a group of their own,
what the index is called, and in which order and spelling its headings stand.  It is valid if there
is at least one column and the alphabet is not blank.
-/

namespace BookIndex

/-- How an index is laid out. -/
structure Config where
  /-- The number of columns of a letter group. -/
  columns : Nat := 2
  /-- The letters that head a group of their own. -/
  alphabet : String := "ABCDEFGHIJKLMNOPQRSTUVWXYZ"
  title : String := "Index"
  order : CollationKind := .accentFold
  spelling : TransliterationKind := .latin
deriving DecidableEq, Repr

/-- Why there is no configuration. -/
inductive ConfigError where
  /-- The file cannot be read as text. -/
  | unreadable (path : String)
  /-- The file holds no configuration. -/
  | malformed (path : String)
  | zeroColumns
  | emptyAlphabet
deriving DecidableEq, Repr

/-- The wording of an error. -/
def ConfigError.message : ConfigError → String
  | unreadable path => "failed to read config file " ++ path
  | malformed path => "failed to parse config file " ++ path
  | zeroColumns => "index_columns must be at least 1"
  | emptyAlphabet => "alphabet must contain at least one letter"

namespace Config

/-- Two columns, the letters A to Z, and an order that ignores case and accents. -/
def standard : Config := {}

/-- The configuration itself if it is valid; of two faults the columns come first. -/
def validate (config : Config) : Except ConfigError Config :=
  if config.columns = 0 then .error .zeroColumns
  else if config.alphabet.toList.all Text.isBlank then .error .emptyAlphabet
  else .ok config

/-- The text is one letter, and the alphabet in upper case has it. -/
def isGroupLetter (config : Config) (letter : String) : Bool :=
  match letter.toList with
  | [c] => (Text.upper config.alphabet).toList.contains c
  | _ => false

/-- The collation that the configuration names. -/
def collation [Text.Romanizer] (config : Config) : Collation :=
  .ofKinds config.order config.spelling

/-- What is accepted is the configuration itself, and it is valid. -/
theorem validate_eq_ok_iff {config c : Config} : config.validate = .ok c ↔
    config = c ∧ config.columns ≠ 0 ∧ config.alphabet.toList.all Text.isBlank = false := by
  unfold validate
  by_cases hc : config.columns = 0
  · simp [hc]
  · by_cases ha : config.alphabet.toList.all Text.isBlank = true
    · rw [if_neg hc, if_pos ha, ha]
      simp
    · rw [if_neg hc, if_neg ha, Except.ok.injEq]
      exact ⟨fun h => ⟨h, hc, Bool.eq_false_iff.2 ha⟩, fun h => h.1⟩

theorem validate_standard : standard.validate = .ok standard :=
  validate_eq_ok_iff.2 ⟨rfl, by decide, by decide +kernel⟩

end Config

end BookIndex
