import BookIndex.Cli
import BookIndex.Proofs.Json.Written
import Mathlib

/-!
# Config.Reloading — a written configuration is loaded unchanged

`Loadable` says what every configuration that is loaded from a text satisfies.  Conversely, a loadable
configuration is loaded from the text that it is written as, in both layouts (`ofText_json`): the
text is read as the value that was written, every member is found once and under its own name, and
what it holds is read as the field it was written for.  So what the command line shows as its
configuration can be saved and loaded (`ofText_showConfig`).
-/

namespace BookIndex

namespace Json

variable {α : Type}

/-! ### The values of members -/

theorem nat?_ofNat {n : Nat} (hn : n < UInt64.size) : nat? (ofNat n) = some n := by
  have hdigits : (toString n).toList.all Char.isDigit = true := by
    rw [List.all_eq_true, Nat.toString_eq_repr, Nat.toList_repr]
    exact fun c hc => Nat.isDigit_of_mem_toDigits (by decide) (by decide) hc
  have hnumber : (toString n).toNat? = some n := Nat.toNat?_repr n
  rw [ofNat, nat?, if_pos hdigits, hnumber, Option.filter_some, if_pos (decide_eq_true hn)]

theorem lt_of_nat? {j : Json} {n : Nat} (h : nat? j = some n) : n < UInt64.size := by
  cases j with
  | number literal =>
    rw [nat?, Option.ite_none_right_eq_some, Option.filter_eq_some_iff] at h
    exact of_decide_eq_true h.2.2
  | null | bool _ | string _ | array _ | object _ => cases h

theorem choice?_ofString (s : String) : (ofString s).choice? = some s :=
  unescape?_escape s

/-- The members of an object whose names need no escapes. -/
theorem members?_object {members : List (String × Json)}
    (hnames : ∀ name ∈ members.map Prod.fst, escape name = name) (names : List String) :
    (object members).members? names = some members := by
  unfold members?
  induction members with
  | nil => rfl
  | cons m members ih =>
    rw [List.map_cons, List.forall_mem_cons] at hnames
    have hname : unescape? m.1 = some m.1 := by
      rw [← hnames.1, unescape?_escape, hnames.1]
    have hrest := ih hnames.2
    simp only [List.mapM_cons, hname] at hrest ⊢
    rw [hrest]
    rfl

/-- What a member holds is the default or has been read from a value. -/
theorem eq_or_read_of_member? {members : List (String × Json)} {name : String}
    {read : Json → Option α} {default a : α} (h : member? members name read default = some a) :
    a = default ∨ ∃ j, read j = some a := by
  unfold member? at h
  split at h
  · exact .inl (Option.some.inj h).symm
  · exact .inr ⟨_, h⟩
  · cases h

end Json

namespace Config

open Json

/-- The names of the members need no escapes. -/
theorem escape_of_mem_memberNames {name : String} (h : name ∈ memberNames) : escape name = name := by
  have hnames : ∀ name ∈ memberNames, escape name = name := by decide
  exact hnames name h

theorem written_json (config : Config) : Written config.json :=
  .member (.number _) <| .member (.string _) <| .member (.string _) <| .member (.string _) <|
    .member (.string _) .empty

theorem members?_json (config : Config) : config.json.members? memberNames =
    some [("index_columns", .ofNat config.columns), ("alphabet", .ofString config.alphabet),
      ("title", .ofString config.title), ("collation", .ofString config.order.name),
      ("transliteration", .ofString config.spelling.name)] := by
  apply members?_object
  exact fun _ hname => escape_of_mem_memberNames hname

/-- The object of a configuration describes the configuration. -/
theorem ofJson?_json {config : Config} (h : config.columns < UInt64.size) :
    ofJson? config.json = some config := by
  simp [ofJson?, members?_json, member?, nat?_ofNat h, text?_ofString, choice?_ofString]

/-- What every configuration satisfies that is loaded from a text. -/
structure Loadable (config : Config) : Prop where
  columns_pos : 1 ≤ config.columns
  columns_lt : config.columns < 2 ^ 64
  alphabet_visible : config.alphabet.toList.all Text.isBlank = false

theorem columns_lt_of_ofJson? {j : Json} {config : Config} (h : ofJson? j = some config) :
    config.columns < UInt64.size := by
  simp only [ofJson?, Option.bind_eq_bind, Option.bind_eq_some_iff] at h
  obtain ⟨members, -, columns, hcolumns, alphabet, -, title, -, order, -, spelling, -, hconfig⟩ := h
  obtain rfl := Option.some.inj hconfig
  rcases eq_or_read_of_member? hcolumns with rfl | ⟨value, hvalue⟩
  · exact (by decide : standard.columns < UInt64.size)
  · exact lt_of_nat? hvalue

theorem loadable_of_ofText {path text : String} {config : Config}
    (h : ofText path text = .ok config) : Loadable config := by
  unfold ofText at h
  split at h
  case h_1 => cases h
  case h_2 read hread =>
    obtain ⟨j, -, hj⟩ := Option.bind_eq_some_iff.1 hread
    obtain ⟨rfl, hcolumns, halphabet⟩ := validate_eq_ok_iff.1 h
    exact ⟨Nat.one_le_iff_ne_zero.2 hcolumns, columns_lt_of_ofJson? hj, halphabet⟩

/-- A text of the object of a loadable configuration is all that is needed to load it. -/
theorem Loadable.ofText_of_parse? {config : Config} (h : Loadable config) {text : String}
    (htext : parse? text = some config.json) (path : String) : ofText path text = .ok config := by
  have hread : (parse? text).bind ofJson? = some config := by
    rw [htext, Option.bind_some, ofJson?_json h.columns_lt]
  rw [ofText, hread]
  exact validate_eq_ok_iff.2 ⟨rfl, Nat.one_le_iff_ne_zero.1 h.columns_pos, h.alphabet_visible⟩

/-- Exactly the loadable configurations are loaded from some text. -/
theorem loadable_iff {config : Config} :
    Loadable config ↔ ∃ path text, ofText path text = .ok config :=
  ⟨fun h => ⟨"", _, h.ofText_of_parse? (parse?_compact config.written_json) ""⟩,
    fun ⟨_, _, h⟩ => loadable_of_ofText h⟩

/-- A valid configuration with a 64-bit number of columns is loaded unchanged from its pretty text,
with or without a last newline, and from its compact text, whatever its strings contain. -/
theorem ofText_json (path : String) (config : Config) (hcolumns : 1 ≤ config.columns)
    (hsize : config.columns < 2 ^ 64)
    (halphabet : config.alphabet.toList.all Text.isBlank = false) :
    ofText path config.json.pretty = .ok config ∧
      ofText path (config.json.pretty ++ "\n") = .ok config ∧
      ofText path config.json.compact = .ok config := by
  have hload : Loadable config := ⟨hcolumns, hsize, halphabet⟩
  exact ⟨hload.ofText_of_parse? (parse?_pretty config.written_json) path,
    hload.ofText_of_parse? (parse?_pretty_line config.written_json) path,
    hload.ofText_of_parse? (parse?_compact config.written_json) path⟩

/-- The greatest number of columns, an alphabet with blanks, quotes, backslashes and letters beyond
ASCII, and a title of control characters. -/
theorem ofText_json_controls :
    (1 ≤ 2 ^ 64 - 1 ∧ 2 ^ 64 - 1 < 2 ^ 64 ∧ " \"\\u/ÄЯ𝕏".toList.all Text.isBlank = false) ∧
      ofText "" (json ⟨2 ^ 64 - 1, " \"\\u/ÄЯ𝕏", "\x00\x08\t\n\x1f\x7f", .caseFold,
        .identity⟩).pretty =
          .ok ⟨2 ^ 64 - 1, " \"\\u/ÄЯ𝕏", "\x00\x08\t\n\x1f\x7f", .caseFold, .identity⟩ :=
  have halphabet : " \"\\u/ÄЯ𝕏".toList.all Text.isBlank = false := by decide
  ⟨⟨by decide, by decide, halphabet⟩,
    (ofText_json "" ⟨_, _, _, _, _⟩ (by decide) (by decide) halphabet).1⟩

/-! ### The configuration that counts -/

theorem loadable_standard : Loadable standard where
  columns_pos := by decide
  columns_lt := by decide
  alphabet_visible := by decide

theorem loadable_of_ofFile {found : String → Contents} {path : String} {config : Config}
    (h : ofFile found path = .ok config) : Loadable config := by
  unfold ofFile at h
  cases hfound : found path with
  | text text =>
    rw [hfound] at h
    exact loadable_of_ofText h
  | missing | unreadable =>
    rw [hfound] at h
    cases h

end Config

namespace Cli

theorem Surroundings.loadable_config {s : Surroundings} {path : Option String} {config : Config}
    (h : s.config path = .ok config) : config.Loadable := by
  cases path with
  | some path => exact Config.loadable_of_ofFile h
  | none =>
    rw [Surroundings.config, Config.ofFileOrStandard] at h
    split at h
    · obtain rfl := Except.ok.inj h
      exact Config.loadable_standard
    · exact Config.loadable_of_ofFile h

/-- The configuration that is shown is loaded from a file that holds what is shown. -/
theorem ofText_showConfig {s : Surroundings} {path : Option String} {text : String}
    (h : showConfig s path = .ok text) (file : String) :
    ∃ config, s.config path = .ok config ∧ Config.ofText file text = .ok config := by
  cases hconfig : s.config path with
  | error e =>
    rw [showConfig, hconfig] at h
    cases h
  | ok config =>
    rw [showConfig, hconfig] at h
    obtain rfl := Except.ok.inj h
    exact ⟨config, rfl, (Surroundings.loadable_config hconfig).ofText_of_parse?
      (Json.parse?_pretty_line config.written_json) file⟩

end Cli

end BookIndex
