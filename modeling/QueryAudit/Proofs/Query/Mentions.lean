import QueryAudit.Proofs.Query.Marks
import QueryAudit.Query.Placeholder

/-!
# Parts of a text and their placeholders

Arguments are parts of a query that are cut into spans once more, on their own. Where the marks of a
part stand among the marks of the whole text, a placeholder of the text that lies in the part is
found in the part.
-/

namespace QueryAudit.Query

/-- The marks of a part stand in those of a text between the given ones, and no name or token of the
part goes on behind it. -/
structure StandsIn (part text : List Char) (front back : List (Char × Bool)) : Prop where
  /-- The marks of the text. -/
  marks : marked text = front ++ marked part ++ back
  /-- What follows starts with another character. -/
  ends : EndsOpening (back.map Prod.fst)

theorem StandsIn.refl (text : List Char) : StandsIn text text [] [] where
  marks := by simp
  ends := by simp [EndsOpening]

theorem StandsIn.trans {inner part text : List Char} {front back front' back' : List (Char × Bool)}
    (hinner : StandsIn inner part front back) (hpart : StandsIn part text front' back') :
    StandsIn inner text (front' ++ front) (back ++ back') where
  marks := by rw [hpart.marks, hinner.marks]; simp
  ends := by
    cases back with
    | nil => exact hpart.ends
    | cons => exact hinner.ends

/-- The text of a part with what stands around it. -/
theorem StandsIn.text_eq {part text : List Char} {front back : List (Char × Bool)}
    (h : StandsIn part text front back) :
    text = front.map Prod.fst ++ part ++ back.map Prod.fst := by
  have hchars := congrArg (List.map Prod.fst) h.marks
  rw [marked_eq_marksFrom, marked_eq_marksFrom, List.map_append, List.map_append, marksFrom_map_fst,
    marksFrom_map_fst] at hchars
  exact hchars

/-- A placeholder as the search in an argument sees it: an `@` before a letter, or a dollar sign
before a digit. -/
def SignsPlaceholder (sign next : Char) : Prop :=
  sign = '@' ∧ isNameStart next = true ∨ sign = '$' ∧ Text.isDigit next = true

theorem SignsPlaceholder.isNameChar {sign next : Char} (h : SignsPlaceholder sign next) :
    isNameChar next = true := by
  rcases h with ⟨_, hstart⟩ | ⟨_, hdigit⟩
  · exact isNameChar_of_isNameStart hstart
  · exact isNameChar_of_isDigit hdigit

/-- Whether the search is hidden from a placeholder behind the given text. -/
def hiddenBehind (previous : Option Char) (front : List Char) : Bool :=
  (front.getLast?.or previous).any hidesPlaceholder

theorem hiddenBehind_append (previous : Option Char) (front back : List Char) :
    hiddenBehind previous (front ++ back) = hiddenBehind (front.getLast?.or previous) back := by
  rw [hiddenBehind, hiddenBehind, List.getLast?_append, Option.or_assoc]

/-- A placeholder in code is found unless the character before it hides it. -/
theorem codeMentions_append {previous : Option Char} {front back : List Char} {sign next : Char}
    (hsigns : SignsPlaceholder sign next) (hfront : hiddenBehind previous front = false) :
    codeMentions (previous.any hidesPlaceholder) (front ++ sign :: next :: back) = true := by
  induction front generalizing previous with
  | nil =>
    have hprevious : previous.any hidesPlaceholder = false := hfront
    rw [List.nil_append, codeMentions, hprevious]
    rcases hsigns with ⟨rfl, hstart⟩ | ⟨rfl, hdigit⟩
    · simp [hstart]
    · simp [hdigit]
  | cons c rest ih =>
    have hrest : hiddenBehind (some c) rest = false :=
      (hiddenBehind_append previous [c] rest).symm.trans hfront
    have hfound := ih hrest
    cases rest with
    | nil =>
      rw [List.singleton_append, codeMentions, Bool.or_eq_true]
      exact Or.inr hfound
    | cons d rest =>
      rw [List.cons_append, List.cons_append, codeMentions, Bool.or_eq_true]
      exact Or.inr hfound

/-- A placeholder that stands in the marks of right spans is found in one of them. -/
theorem Lexes.mentions {before : List Char} {previous : Option Char} {cut : List Span}
    {front back : List (Char × Bool)} {sign next : Char} (h : Lexes before cut)
    (hsigns : SignsPlaceholder sign next)
    (hmarks : cut.flatMap Span.marks = front ++ (sign, true) :: (next, true) :: back)
    (hfront : hiddenBehind previous (front.map Prod.fst) = false) :
    ((codeAfter previous cut).any fun run =>
      codeMentions (run.1.any hidesPlaceholder) run.2) = true := by
  induction h generalizing previous front with
  | done => simp at hmarks
  | @skipped before text c rest _ _ ih =>
    rw [List.flatMap_cons] at hmarks
    obtain ⟨more, rfl, hmore⟩ := skipped_append_eq hmarks
    have hbehind : hiddenBehind previous ((Span.marks ⟨c :: text, false⟩ ++ more).map Prod.fst) =
        false := hfront
    rw [List.map_append, Span.marks_map_fst, hiddenBehind_append] at hbehind
    rw [codeAfter]
    exact ih hmore hbehind
  | @code before run rest hne hcode hhead hrest ih =>
    rw [List.flatMap_cons] at hmarks
    rw [codeAfter, if_pos rfl, List.any_cons, Bool.or_eq_true]
    have hlater {more : List (Char × Bool)} (hfirst : front = Span.marks ⟨run, true⟩ ++ more)
        (hmore : rest.flatMap Span.marks = more ++ (sign, true) :: (next, true) :: back) :
        ((codeAfter (run.getLast?.or previous) rest).any fun run =>
          codeMentions (run.1.any hidesPlaceholder) run.2) = true := by
      rw [hfirst, List.map_append, Span.marks_map_fst, hiddenBehind_append] at hfront
      exact ih hmore hfront
    rcases List.append_eq_append_iff.mp hmarks with ⟨more, hfirst, hmore⟩ | ⟨more, hfirst, hmore⟩
    · exact Or.inr (hlater hfirst hmore)
    · cases more with
      | nil =>
        rw [List.append_nil] at hfirst
        exact Or.inr (@hlater [] (by rw [hfirst, List.append_nil]) hmore.symm)
      | cons mark more =>
        obtain ⟨rfl, htail⟩ := List.cons.inj hmore
        cases more with
        | nil =>
          -- The next character would be code in the span behind, which is skipped.
          cases hrest with
          | done => simp at htail
          | code => simp at hhead
          | skipped => simp [Span.marks] at htail
        | cons mark more =>
          obtain ⟨rfl, _⟩ := List.cons.inj htail
          have hrun := congrArg (List.map Prod.fst) hfirst
          rw [Span.marks_map_fst, List.map_append, List.map_cons, List.map_cons] at hrun
          refine Or.inl ?_
          rw [hrun]
          exact codeMentions_append hsigns hfront

/-- A placeholder that stands in the code of a text is found unless the character before it hides
it. -/
theorem hasPlaceholders_of_marked {text : List Char} {front back : List (Char × Bool)}
    {sign next : Char} (hsigns : SignsPlaceholder sign next)
    (hmarked : marked text = front ++ (sign, true) :: (next, true) :: back)
    (hfront : hiddenBehind none (front.map Prod.fst) = false) : hasPlaceholders text = true :=
  (lexes_spans text).mentions hsigns hmarked hfront

end QueryAudit.Query
