import BookIndex.Token

/-!
# Token.Braces — groups that tokens open and close

Tokens are unclosed if they never close a group that was open before them.  What follows an opening
brace is either unclosed to its end, or it has a first brace that closes the group
(`unclosed_or_exists_close`).
-/

namespace BookIndex.Token

/-- The number of groups that the tokens open. -/
def opens (ts : List Token) : Nat := ts.countP isBeginGroup

/-- The number of groups that the tokens close. -/
def closes (ts : List Token) : Nat := ts.countP isEndGroup

/-- With `depth` groups open around them, the tokens never close one group more. -/
def Unclosed (depth : Nat) (ts : List Token) : Prop :=
  ∀ us, us <+: ts → closes us ≤ depth + opens us

/-- The tokens close the groups that they open, and no other. -/
structure Balanced (ts : List Token) : Prop where
  unclosed : Unclosed 0 ts
  closes_eq : closes ts = opens ts

@[simp] theorem opens_nil : opens [] = 0 := rfl

@[simp] theorem closes_nil : closes [] = 0 := rfl

@[simp] theorem opens_append (ts us : List Token) : opens (ts ++ us) = opens ts + opens us :=
  List.countP_append

@[simp] theorem closes_append (ts us : List Token) : closes (ts ++ us) = closes ts + closes us :=
  List.countP_append

theorem opens_cons (t : Token) (ts : List Token) :
    opens (t :: ts) = opens ts + if t.isBeginGroup then 1 else 0 :=
  List.countP_cons

theorem closes_cons (t : Token) (ts : List Token) :
    closes (t :: ts) = closes ts + if t.isEndGroup then 1 else 0 :=
  List.countP_cons

theorem isEndGroup_of_isBeginGroup {t : Token} (ht : t.isBeginGroup = true) : t.isEndGroup = false := by
  rcases t with ⟨c, category⟩ | name
  · cases category <;> first | rfl | simp [isBeginGroup, category?] at ht
  · rfl

theorem isBeginGroup_of_isEndGroup {t : Token} (ht : t.isEndGroup = true) : t.isBeginGroup = false := by
  cases hbegin : t.isBeginGroup with
  | false => rfl
  | true => rw [isEndGroup_of_isBeginGroup hbegin] at ht; exact absurd ht Bool.false_ne_true

theorem brace_cases (t : Token) : (∃ c, t = .char c .beginGroup) ∨ (∃ c, t = .char c .endGroup) ∨
    (t.isBeginGroup = false ∧ t.isEndGroup = false) := by
  rcases t with ⟨c, category⟩ | name
  · cases category with
    | beginGroup => exact .inl ⟨c, rfl⟩
    | endGroup => exact .inr (.inl ⟨c, rfl⟩)
    | space | letter | other => exact .inr (.inr ⟨rfl, rfl⟩)
  · exact .inr (.inr ⟨rfl, rfl⟩)

theorem not_brace_of_isText {t : Token} (ht : t.isText = true) :
    t.isBeginGroup = false ∧ t.isEndGroup = false := by
  rcases t.brace_cases with ⟨c, rfl⟩ | ⟨c, rfl⟩ | h
  · exact absurd ht Bool.false_ne_true
  · exact absurd ht Bool.false_ne_true
  · exact h

theorem isText_of_isSpace {t : Token} (ht : t.isSpace = true) : t.isText = true := by
  rw [isText_eq, ht]
  rfl

theorem isText_of_isBeginGroup {t : Token} (ht : t.isBeginGroup = true) : t.isText = false := by
  cases htext : t.isText with
  | false => rfl
  | true => rw [(not_brace_of_isText htext).1] at ht; exact absurd ht Bool.false_ne_true

theorem isText_of_isEndGroup {t : Token} (ht : t.isEndGroup = true) : t.isText = false := by
  cases htext : t.isText with
  | false => rfl
  | true => rw [(not_brace_of_isText htext).2] at ht; exact absurd ht Bool.false_ne_true

theorem isSpace_of_isBeginGroup {t : Token} (ht : t.isBeginGroup = true) : t.isSpace = false := by
  cases hspace : t.isSpace with
  | false => rfl
  | true =>
    have htext := isText_of_isBeginGroup ht
    rw [isText_of_isSpace hspace] at htext
    exact absurd htext.symm Bool.false_ne_true

namespace Unclosed

variable {depth : Nat} {t : Token} {ts us : List Token}

theorem nil (depth : Nat) : Unclosed depth [] := by
  intro us hus
  rw [List.prefix_nil.1 hus]
  exact Nat.zero_le _

theorem of_prefix (h : Unclosed depth ts) (hus : us <+: ts) : Unclosed depth us :=
  fun vs hvs => h vs (hvs.trans hus)

/-- The first token opens or closes a group, and the others go on from there. -/
theorem cons_iff {depth' : Nat}
    (hdepth : depth' + (if t.isEndGroup then 1 else 0) = depth + if t.isBeginGroup then 1 else 0) :
    Unclosed depth (t :: ts) ↔ Unclosed depth' ts := by
  constructor
  · intro h us hus
    have hcons := h (t :: us) (List.cons_prefix_cons.2 ⟨rfl, hus⟩)
    rw [opens_cons, closes_cons] at hcons
    omega
  · intro h us hus
    rcases List.prefix_cons_iff.1 hus with rfl | ⟨us', rfl, hus'⟩
    · exact Nat.zero_le _
    · have hrest := h us' hus'
      rw [opens_cons, closes_cons]
      omega

theorem mono {depth' : Nat} (h : Unclosed depth ts) (hle : depth ≤ depth') : Unclosed depth' ts :=
  fun us hus => Nat.le_trans (h us hus) (Nat.add_le_add_right hle _)

theorem concat (h : Unclosed depth ts)
    (hlast : closes (ts ++ [t]) ≤ depth + opens (ts ++ [t])) : Unclosed depth (ts ++ [t]) := by
  intro us hus
  rcases List.prefix_concat_iff.1 hus with rfl | hus'
  · exact hlast
  · exact h us hus'

/-- Text opens and closes nothing. -/
theorem text_append (hts : ∀ t ∈ ts, t.isText = true) (h : Unclosed depth us) :
    Unclosed depth (ts ++ us) := by
  induction ts with
  | nil => exact h
  | cons t ts ih =>
    rw [List.forall_mem_cons] at hts
    obtain ⟨hbegin, hend⟩ := not_brace_of_isText hts.1
    exact (cons_iff (by rw [hbegin, hend])).2 (ih hts.2)

end Unclosed

/-- Tokens are unclosed, or a first one closes a group that was open before them. -/
theorem unclosed_or_exists_close (depth : Nat) (ts : List Token) : Unclosed depth ts ∨
    ∃ body close rest, ts = body ++ close :: rest ∧ Unclosed depth body ∧
      closes body = depth + opens body ∧ close.isEndGroup = true := by
  induction ts generalizing depth with
  | nil => exact .inl (.nil depth)
  | cons t ts ih =>
    by_cases hfirst : t.isEndGroup = true ∧ depth = 0
    · -- It is the brace itself.
      obtain ⟨hend, rfl⟩ := hfirst
      exact .inr ⟨[], t, ts, rfl, .nil 0, rfl, hend⟩
    · obtain ⟨depth', hdepth⟩ : ∃ depth', depth' + (if t.isEndGroup then 1 else 0) =
          depth + if t.isBeginGroup then 1 else 0 := by
        by_cases hend : t.isEndGroup = true
        · have hpos : depth ≠ 0 := fun hzero => hfirst ⟨hend, hzero⟩
          refine ⟨depth + (if t.isBeginGroup then 1 else 0) - 1, ?_⟩
          rw [if_pos hend]
          omega
        · exact ⟨_, by rw [if_neg hend, Nat.add_zero]⟩
      rcases ih depth' with hrest | ⟨body, close, rest, rfl, hbody, hcloses, hclose⟩
      · exact .inl ((Unclosed.cons_iff hdepth).2 hrest)
      · refine .inr ⟨t :: body, close, rest, rfl, (Unclosed.cons_iff hdepth).2 hbody, ?_, hclose⟩
        rw [opens_cons, closes_cons]
        omega

end BookIndex.Token
