import QueryAudit.Describe
import QueryAudit.Proofs.Query.CallForm
import QueryAudit.Proofs.Query.Origins
import QueryAudit.Proofs.Query.Stability
import QueryAudit.Proofs.Registry

/-!
# Queries that the registry describes

The registry describes a query without asking the server, so it has to see every placeholder by
itself. The numbers of the rewritten text are followed back to the arguments of the call, and each
is the number of one, except for those behind an `@` and those whose dollar sign the query skips:
they are not looked for, and they are lost unless an argument has the same number.
-/

namespace QueryAudit

open Query

/-- The text that is written in front of a dollar sign that the query skips. -/
def BehindSkipped (query : List Char) (rewritten : Rewritten) (before : List Char) : Prop :=
  ∃ front text back left right written, spans query = front ++ ⟨text, false⟩ :: back ∧
    text = left ++ '$' :: right ∧ Writes rewritten (front.flatMap Span.pieces) written ∧
    before = written ++ left

/-- The text in front of a number that the search for placeholders does not see. -/
def Hidden (query : List Char) (rewritten : Rewritten) (before : List Char) : Prop :=
  before.getLast? = some '@' ∨ BehindSkipped query rewritten before

/-- A number that some argument of the called function is, and nothing else. -/
def IsArgument (query : List Char) (rewritten : Rewritten) (n : Nat) : Prop :=
  ∃ call, call? query = some call ∧
    ∃ argument ∈ call.arguments, Registry.inspect rewritten argument = .ok (.position n)

/-! ## Through the registry -/

/-- A server is always asked for a connection first. -/
theorem sent_overServer_ne_nil (dsn : String) (server : Server) (snapshot : Snapshot)
    (rewritten : Rewritten) : (Describe.overServer dsn server snapshot rewritten).2 ≠ [] := by
  unfold Describe.overServer
  split
  · simp
  · dsimp only
    split <;> simp

/-- Nothing is sent exactly when the registry describes the call that the query is. -/
theorem describe_eq_settled_iff {dsn : String} {server : Server} {snapshot : Snapshot}
    {query : String} {rewritten : Rewritten} {description : Description}
    (hrewrite : rewrite query.toList = .ok rewritten) :
    describe dsn server snapshot query = (.ok (.ok description), []) ↔
      ∃ call, call? query.toList = some call ∧
        Registry.describe snapshot call rewritten = .ok (some description) := by
  constructor
  · intro h
    simp only [describe, hrewrite] at h
    cases hregistry : Describe.byRegistry snapshot query.toList rewritten with
    | error error =>
      rw [hregistry] at h
      cases h
    | ok found =>
      rw [hregistry] at h
      cases found with
      | none =>
        exact absurd (congrArg Prod.snd h) (sent_overServer_ne_nil dsn server snapshot rewritten)
      | some settled =>
        obtain rfl : settled = description := by simpa using h
        rw [Describe.byRegistry] at hregistry
        cases hcall : call? query.toList with
        | none =>
          rw [hcall] at hregistry
          cases hregistry
        | some call =>
          rw [hcall] at hregistry
          exact ⟨call, rfl, hregistry⟩
  · rintro ⟨call, hcall, hregistry⟩
    simp only [describe, hrewrite, Describe.byRegistry, hcall, hregistry]

/-! ## The placeholder of an argument -/

/-- A placeholder in a settled argument gives the argument its position. -/
theorem Registry.Settled.inspect_of_liesIn {rewritten : Rewritten} {argument : String}
    {text : List Char} {left right : List (Char × Bool)} {sign next : Char}
    (h : Settled rewritten argument)
    (hlies : LiesIn argument.toList text left sign ((next, true) :: right))
    (hsigns : SignsPlaceholder sign next)
    (hleft : ∀ c ∈ (left.map Prod.fst).getLast?, hidesPlaceholder c = false) :
    ∃ n, inspect rewritten argument = .ok (.position n) ∧
      (sign = '@' ∧ rewritten.positionOf?
          (String.ofList (leadingName (next :: right.map Prod.fst))) = some n ∨
        sign = '$' ∧ Text.digitsValue (leadingDigits (next :: right.map Prod.fst)) = n) := by
  have hsign : isNameChar sign = false ∧ Text.isBlank sign = false := by
    rcases hsigns with ⟨rfl, _⟩ | ⟨rfl, _⟩ <;> decide
  have htrimmed := hlies.trim hsign.2
  obtain ⟨n, hinspect, hplaceholder⟩ := h.of_hasPlaceholders (hlies.hasPlaceholders hsigns hleft)
  refine ⟨n, hinspect, ?_⟩
  rcases hplaceholder with ⟨name, hname, hargument, hposition⟩ | ⟨digits, hdigits, hargument, hn⟩
  · obtain ⟨rfl, rest, hright, hends⟩ := htrimmed.eq_cons hargument hsign.1 hname.isNameChar
    rw [List.map_cons] at hright
    refine Or.inl ⟨rfl, ?_⟩
    rw [hright, leadingName_append hname hends]
    exact hposition
  · obtain ⟨rfl, rest, hright, hends⟩ := htrimmed.eq_cons hargument hsign.1
      fun d hd => isNameChar_of_isDigit (hdigits d hd)
    rw [List.map_cons] at hright
    refine Or.inr ⟨rfl, ?_⟩
    rw [hright, leadingDigits_append hdigits hends.isDigit_eq_false]
    exact hn

/-! ## The numbers of the rewritten text -/

/-- The text around a numbered placeholder. -/
theorem NumberAt.text_eq {text before : List Char} {n : Nat} (h : NumberAt text before n) :
    ∃ tail, text = before ++ '$' :: tail ∧ leadingDigits tail ≠ [] ∧
      n = Text.digitsValue (leadingDigits tail) := by
  obtain ⟨front, code, back, left, right, hspans, rfl, rfl, hdigits, hn⟩ := h
  have hsource := sourceOf_spans text
  have hlexes := lexes_spans text
  rw [hspans] at hsource hlexes
  refine ⟨right ++ sourceOf back, by rw [← hsource]; simp, ?_⟩
  rw [leadingDigits_append_right right hlexes.append_right.endsName_tail]
  exact ⟨hdigits, hn⟩

/-- What ends no identifier and is no `@` hides no placeholder. -/
theorem hidesPlaceholder_eq_false {c : Char} (h : isIdentifierChar c = false) (hc : c ≠ '@') :
    hidesPlaceholder c = false := by
  rw [Bool.eq_false_iff]
  intro hhides
  simp only [hidesPlaceholder, Bool.or_eq_true, beq_iff_eq] at hhides
  rcases hhides with (hname | rfl) | rfl
  · rw [isIdentifierChar_of_isNameChar hname] at h
    cases h
  · exact absurd h (by decide)
  · exact hc rfl

/-- A number comes from a placeholder of the query, or its dollar sign is skipped there. -/
theorem originAt_of_numberAt {query : List Char} {rewritten : Rewritten} {before : List Char}
    {n : Nat} (hrewrite : rewrite query = .ok rewritten) (h : NumberAt rewritten.text before n)
    (hskipped : ¬ BehindSkipped query rewritten before) :
    ∃ digits, n = Text.digitsValue digits ∧
      OriginAt (highestOf (spans query)) (namesOf (spans query)) (spans query) digits before := by
  obtain ⟨_, rfl⟩ := rewrite_eq_ok_iff.mp hrewrite
  obtain ⟨tail, htext, hdigits, hn⟩ := h.text_eq
  rw [← sourceOf_numberedSpans] at htext
  refine ⟨leadingDigits tail, hn, ?_⟩
  rcases (lexes_spans query).origin htext hdigits with hat | horigin
  · refine absurd ?_ hskipped
    obtain ⟨front, skipped, back, left, right, hspans, hskip, rfl⟩ := hat
    refine ⟨front, skipped, back, left, right, _, hspans, hskip, ?_, rfl⟩
    rw [sourceOf_numbered]
    refine (writes_iff fun name hname => ?_).mpr rfl
    refine positionOf?_rewriteAfter ?_
    rw [hspans, List.flatMap_append]
    exact List.mem_append_left _ hname
  · exact horigin

/-- When the registry settles a query, every number of the rewritten text that the search for
placeholders sees is an argument. -/
theorem isArgument_of_numberAt {dsn : String} {server : Server} {snapshot : Snapshot}
    {query : String} {rewritten : Rewritten} {description : Description} {before : List Char}
    {n : Nat} (hrewrite : rewrite query.toList = .ok rewritten)
    (hdescribe : describe dsn server snapshot query = (.ok (.ok description), []))
    (hnumber : NumberAt rewritten.text before n)
    (hbefore : before.getLast?.any isIdentifierChar = false)
    (hseen : ¬ Hidden query.toList rewritten before) : IsArgument query.toList rewritten n := by
  obtain ⟨hat, hskipped⟩ := not_or.mp hseen
  obtain ⟨call, hcall, hregistry⟩ := (describe_eq_settled_iff hrewrite).mp hdescribe
  have hsettled := (Registry.settled_of_describe hregistry).1
  obtain ⟨digits, rfl, left, sign, next, right, hmarks, hsigns, halike, horigin⟩ :=
    originAt_of_numberAt hrewrite hnumber hskipped
  have hlast : (left.map Prod.fst).getLast? = before.getLast? := by
    have hsame := halike none none (Or.inl rfl)
    rw [Option.or_none, Option.or_none] at hsame
    rcases hsame with hsame | ⟨_, hidentifier⟩
    · exact hsame
    · rw [hbefore] at hidentifier
      cases hidentifier
  rw [← hlast] at hbefore hat
  have hleft : ∀ c ∈ (left.map Prod.fst).getLast?, hidesPlaceholder c = false := by
    intro c hc
    rw [Option.mem_def.mp hc] at hbefore hat
    exact hidesPlaceholder_eq_false hbefore fun heq => hat (congrArg some heq)
  have hsign : sign = '@' ∨ sign = '$' := hsigns.imp And.left And.left
  obtain ⟨argument, hargument, hlies⟩ := exists_argument_of_call? hcall hmarks hsign hbefore
  obtain ⟨n, hinspect, hfound⟩ := (hsettled argument hargument).inspect_of_liesIn hlies hsigns hleft
  suffices hn : Text.digitsValue digits = n from
    ⟨call, hcall, argument, hargument, by rw [hn]; exact hinspect⟩
  generalize next :: right.map Prod.fst = rest at horigin hfound
  cases horigin with
  | named hpiece hname hends hdigits =>
    rcases hfound with ⟨_, hposition⟩ | ⟨hdollar, _⟩
    · obtain ⟨_, rfl⟩ := rewrite_eq_ok_iff.mp hrewrite
      rw [leadingName_append hname hends, positionOf?_rewriteAfter hpiece, Option.some.injEq]
        at hposition
      rw [hdigits, digitsValue_numeral, hposition]
    · exact absurd hdollar (by decide)
  | numbered hdigits =>
    rcases hfound with ⟨hname, _⟩ | ⟨_, hn⟩
    · exact absurd hname (by decide)
    · rw [hdigits, hn]

/-- The parameters of a query that the registry settles are its arguments. -/
theorem position_mem_iff_isArgument {dsn : String} {server : Server} {snapshot : Snapshot}
    {query : String} {rewritten : Rewritten} {description : Description} {n : Nat}
    (hrewrite : rewrite query.toList = .ok rewritten)
    (hdescribe : describe dsn server snapshot query = (.ok (.ok description), [])) :
    (n : Int) ∈ description.parameters.map Parameter.position ↔
      IsArgument query.toList rewritten n := by
  obtain ⟨call, hcall, hregistry⟩ := (describe_eq_settled_iff hrewrite).mp hdescribe
  rw [(Registry.settled_of_describe hregistry).2]
  constructor
  · exact fun h => ⟨call, hcall, h⟩
  · rintro ⟨found, hfound, h⟩
    obtain rfl := Option.some.inj (hcall.symm.trans hfound)
    exact h

/-- No placeholder is dropped when the registry settles a query, exactly when each that the search
for placeholders does not see has the number of an argument. -/
theorem described_iff_hidden_isArgument {dsn : String} {server : Server} {snapshot : Snapshot}
    {query : String} {rewritten : Rewritten} {description : Description}
    (hrewrite : rewrite query.toList = .ok rewritten)
    (hdescribe : describe dsn server snapshot query = (.ok (.ok description), [])) :
    (∀ before n, NumberAt rewritten.text before n →
        before.getLast?.any isIdentifierChar = false →
        (n : Int) ∈ description.parameters.map Parameter.position) ↔
      ∀ before n, NumberAt rewritten.text before n →
        before.getLast?.any isIdentifierChar = false → Hidden query.toList rewritten before →
        IsArgument query.toList rewritten n := by
  constructor
  · intro h before n hnumber hbefore _
    exact (position_mem_iff_isArgument hrewrite hdescribe).mp (h before n hnumber hbefore)
  · intro h before n hnumber hbefore
    rw [position_mem_iff_isArgument hrewrite hdescribe]
    by_cases hhidden : Hidden query.toList rewritten before
    · exact h before n hnumber hbefore hhidden
    · exact isArgument_of_numberAt hrewrite hdescribe hnumber hbefore hhidden

/-! ## A call of one argument -/

/-- A function of one parameter. -/
def increment : Signature :=
  ⟨"increment", "public", [none], [.unknown], .unknown, false, false⟩

/-- The registry that has this function only. -/
def incrementSnapshot : Snapshot :=
  ⟨[], [], [("increment", [increment])], []⟩

/-- A server that accepts no text. -/
def silentServer : Server :=
  ⟨none, .utf8, fun _ => .breaks "closed", fun _ => .breaks "closed"⟩

theorem overloads_increment : incrementSnapshot.overloads "increment" = [increment] := rfl

/-- The registry describes a call of the function when the argument is settled. -/
theorem describe_increment {argument : String} {rewritten : Rewritten}
    {positions : Entries Nat DataType}
    (h : Registry.collect rewritten [] [(argument, .unknown)] = .ok (some positions)) :
    Registry.describe incrementSnapshot ⟨"increment", none, [argument]⟩ rewritten =
      .ok (some
        { parameters := (positions.mergeSort fun a b => decide (a.1 ≤ b.1)).map
            fun (n, type) => ⟨n, rewritten.nameAt? n, type⟩
          columns := [⟨"increment", .unknown, true, false⟩] }) := by
  have hcandidates : Registry.candidates incrementSnapshot ⟨"increment", none, [argument]⟩ =
      [increment] := by
    rw [Registry.candidates, overloads_increment]
    rfl
  rw [Registry.describe, hcandidates]
  change Registry.describeWith increment _ rewritten = _
  rw [Registry.describeWith]
  change (Registry.collect rewritten [] [(argument, .unknown)] >>= _) = _
  rw [h]
  rfl

/-- The number behind an `@` is dropped. -/
theorem number_behind_at_not_described :
    rewrite "SELECT increment(@$1)".toList = .ok ⟨"SELECT increment(@$1)".toList, []⟩ ∧
      NumberAt "SELECT increment(@$1)".toList "SELECT increment(@".toList 1 ∧
      "SELECT increment(@".toList.getLast?.any isIdentifierChar = false ∧
      ∃ description, describe "" silentServer incrementSnapshot "SELECT increment(@$1)" =
          (.ok (.ok description), []) ∧
        (1 : Int) ∉ description.parameters.map Parameter.position := by
  have hrewrite : rewrite "SELECT increment(@$1)".toList =
      .ok ⟨"SELECT increment(@$1)".toList, []⟩ := by decide +kernel
  have hcall : call? "SELECT increment(@$1)".toList = some ⟨"increment", none, ["@$1"]⟩ := by
    decide +kernel
  have hinspect : Registry.inspect ⟨"SELECT increment(@$1)".toList, []⟩ "@$1" = .ok .nothing := by
    decide +kernel
  have hcollect : Registry.collect ⟨"SELECT increment(@$1)".toList, []⟩ []
      [("@$1", .unknown)] = .ok (some []) := by
    rw [Registry.collect, hinspect]
    rfl
  have hdescribe := describe_increment hcollect
  rw [List.mergeSort_nil] at hdescribe
  have hspans : spans "SELECT increment(@$1)".toList =
      [⟨"SELECT increment(@".toList ++ '$' :: "1)".toList, true⟩] := by decide +kernel
  exact ⟨hrewrite, ⟨[], _, [], _, "1)".toList, hspans, rfl, rfl, by decide, by decide⟩,
    by decide +kernel, _, (describe_eq_settled_iff hrewrite).mpr ⟨_, hcall, hdescribe⟩, by simp⟩

/-- A named argument is described. -/
theorem named_argument_described :
    rewrite "SELECT increment(@a)".toList = .ok ⟨"SELECT increment($1)".toList, [(1, "a")]⟩ ∧
      describe "" silentServer incrementSnapshot "SELECT increment(@a)" =
        (.ok (.ok ⟨[⟨1, some "a", .unknown⟩], [⟨"increment", .unknown, true, false⟩]⟩), []) ∧
      ∀ before n, NumberAt "SELECT increment($1)".toList before n →
        before.getLast?.any isIdentifierChar = false → (n : Int) ∈ [(1 : Int)] := by
  have hrewrite : rewrite "SELECT increment(@a)".toList =
      .ok ⟨"SELECT increment($1)".toList, [(1, "a")]⟩ := by decide +kernel
  have hcall : call? "SELECT increment(@a)".toList = some ⟨"increment", none, ["@a"]⟩ := by
    decide +kernel
  have hinspect : Registry.inspect ⟨"SELECT increment($1)".toList, [(1, "a")]⟩ "@a" =
      .ok (.position 1) := by decide +kernel
  have hcollect : Registry.collect ⟨"SELECT increment($1)".toList, [(1, "a")]⟩ []
      [("@a", .unknown)] = .ok (some [(1, .unknown)]) := by
    rw [Registry.collect, hinspect]
    rfl
  have hregistry := describe_increment hcollect
  rw [List.mergeSort_singleton] at hregistry
  have hdescribe : describe "" silentServer incrementSnapshot "SELECT increment(@a)" =
      (.ok (.ok ⟨[⟨1, some "a", .unknown⟩], [⟨"increment", .unknown, true, false⟩]⟩), []) :=
    (describe_eq_settled_iff hrewrite).mpr ⟨_, hcall, hregistry⟩
  refine ⟨hrewrite, hdescribe, (described_iff_hidden_isArgument hrewrite hdescribe).mpr ?_⟩
  intro before n hnumber _ _
  obtain ⟨tail, htext, _, rfl⟩ := hnumber.text_eq
  have hsplit : "SELECT increment(".toList ++ '$' :: "1)".toList = before ++ '$' :: tail := htext
  obtain ⟨_, _, rfl⟩ := (List.append_cons_inj_of_notMem (by decide) (by decide)).mp hsplit
  exact ⟨_, hcall, "@a", by simp, hinspect⟩

end QueryAudit
