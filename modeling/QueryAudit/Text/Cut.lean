/-!
# Cutting texts

Cutting a text at the first or the last place of a separator, or at all of them. The parts with the
separators between them give the text again.
-/

namespace QueryAudit.Text

/-- The text before the first separator, and the text after it when there is one. -/
def cutFirst (separator : Char) (s : List Char) : List Char × Option (List Char) :=
  (s.takeWhile (· != separator), (s.dropWhile (· != separator)).tail?)

/-- The text before the last separator when there is one, and the text after it. -/
def cutLast (separator : Char) (s : List Char) : Option (List Char) × List Char :=
  let (after, before) := cutFirst separator s.reverse
  (before.map List.reverse, after.reverse)

/-- The pieces of a text between its separators. -/
def cutAll (separator : Char) : List Char → List (List Char)
  | [] => [[]]
  | c :: rest =>
    if c = separator then [] :: cutAll separator rest
    else
      match cutAll separator rest with
      | [] => [[c]]
      | piece :: pieces => (c :: piece) :: pieces

/-- A text without separators is its own only part. -/
theorem cutFirst_of_not_mem {separator : Char} {s : List Char} (h : separator ∉ s) :
    cutFirst separator s = (s, none) := by
  induction s with
  | nil => rfl
  | cons c rest ih =>
    have hc : c ≠ separator := fun same => h (same ▸ List.mem_cons_self ..)
    have hrest := ih fun mem => h (List.mem_cons_of_mem _ mem)
    simp only [cutFirst, Prod.mk.injEq] at hrest
    simp [cutFirst, hc, hrest]

/-- The first separator ends the first part. -/
theorem cutFirst_append {separator : Char} {s : List Char} (h : separator ∉ s) (t : List Char) :
    cutFirst separator (s ++ separator :: t) = (s, some t) := by
  have keep : ∀ c ∈ s, (c != separator) = true := by
    intro c hc
    simp only [bne_iff_ne]
    rintro rfl
    exact h hc
  simp [cutFirst, List.takeWhile_append_of_pos keep, List.dropWhile_append_of_pos keep]

/-- The last separator starts the last part. -/
theorem cutLast_append {separator : Char} {t : List Char} (h : separator ∉ t) (s : List Char) :
    cutLast separator (s ++ separator :: t) = (some s, t) := by
  have hreverse : separator ∉ t.reverse := by simpa using h
  have := cutFirst_append hreverse s.reverse
  simp [cutLast, this]

end QueryAudit.Text
