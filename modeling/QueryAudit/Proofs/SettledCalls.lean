import QueryAudit.Proofs.Parameters
import QueryAudit.Proofs.Query.Placement

/-!
# Calls that the registry settles

A query that the registry settles is a call of a function that has one fitting overload, with a
plain result. Its parameters are the numbers of the arguments that are placeholders, and these are
the numbers that rewriting has written in the places of the arguments.
-/

namespace QueryAudit

open Query Registry

/-- Rewriting has written the position of every argument that is a placeholder in its place. -/
def Query.CallForm.Numbered (form : CallForm) (rewritten : Rewritten) : Prop :=
  ∀ i argument placeholder, form.call.arguments[i]? = some argument →
    barePlaceholder? argument.toList = .ok (some placeholder) →
    ∃ n, position? rewritten placeholder = some n ∧
      NumbersAt form.text rewritten (form.front i) argument.toList n

/-- The first argument that stands for a position, and its index. -/
def FirstStandsFor (rewritten : Rewritten) (arguments : List String) (n i : Nat) : Prop :=
  (∃ argument, arguments[i]? = some argument ∧ StandsFor rewritten argument n) ∧
    ∀ j < i, ∀ earlier, arguments[j]? = some earlier → ¬ StandsFor rewritten earlier n

/-- The description of a call that the registry settles. -/
structure Settles (snapshot : Snapshot) (form : CallForm) (rewritten : Rewritten)
    (signature : Signature) (description : Description) : Prop where
  /-- One of the overloads that are stored under the name of the call in lower case fits. -/
  chosen : ∃ before after,
    snapshot.functions.get? (Text.lowered form.call.name) = some (before ++ signature :: after) ∧
    Fits form.call signature ∧ ∀ other ∈ before ++ after, ¬ Fits form.call other
  /-- It returns one plain value. -/
  plain : signature.returnsSet = false ∧ signature.returnsComposite = false
  /-- The positions increase. -/
  increasing : (description.parameters.map Parameter.position).Pairwise (· < ·)
  /-- They are the positions for which arguments stand. -/
  positions : ∀ position, position ∈ description.parameters.map Parameter.position ↔
    ∃ n : Nat, position = n ∧ ∃ argument ∈ form.call.arguments, StandsFor rewritten argument n
  /-- A parameter has the name that is recorded at its position, and the type that is declared for
  the first argument which stands for it. -/
  declared : ∀ parameter ∈ description.parameters, ∃ n i : Nat, parameter.position = n ∧
    parameter.name = rewritten.nameAt? n ∧ FirstStandsFor rewritten form.call.arguments n i ∧
    signature.parameterTypes[i]? = some parameter.dataType
  /-- No name is recorded at the position of a numbered argument. -/
  nameless : ∀ argument ∈ form.call.arguments, ∀ n,
    barePlaceholder? argument.toList = .ok (some (.positional n)) → rewritten.nameAt? n = none
  /-- The one column has the name and the type of the function, and it is of no table. -/
  columns : description.columns = [⟨signature.name, signature.returnType, true, false⟩]

/-! ## The arguments -/

/-- Every placeholder that is an argument has a position, which stands in its place. -/
theorem numbered_of_rewrite {form : CallForm} {rewritten : Rewritten}
    (hrewrite : rewrite form.text = .ok rewritten) : form.Numbered rewritten :=
  fun _ _ _ hargument hbare => CallForm.numbersAt_argument hargument hrewrite hbare

/-- The position of a numbered argument is a number that the query uses, so that no name gets it. -/
theorem nameAt?_of_numbered {query : List Char} {call : Call} {rewritten : Rewritten}
    {argument : String} {n : Nat} (hcall : call? query = some call)
    (hrewrite : rewrite query = .ok rewritten) (hargument : argument ∈ call.arguments)
    (hbare : barePlaceholder? argument.toList = .ok (some (.positional n))) :
    rewritten.nameAt? n = none := by
  rcases barePlaceholder?_eq_some hbare with ⟨_, _, _, hnamed⟩ |
    ⟨digits, hdigits, hne, htrim, hnumbered⟩
  · cases hnamed
  · obtain rfl := Placeholder.positional.inj hnumbered
    have hpositional : IsPositional query (Text.digitsValue digits) := isPositional_iff.mpr
      (List.mem_map_of_mem (mem_positionals_of_argument hcall hargument htrim hdigits hne))
    obtain ⟨_, rfl⟩ := rewrite_eq_ok_iff.mp hrewrite
    have hfree := (records_rewriteAfter (highestOf (spans query)) (spans query)).not_mem_positions
      (isHighest_highestOf query) hpositional
    exact List.lookup_eq_none_iff.mpr fun entry hentry => by
      simpa using fun heq => hfree (List.mem_map.mpr ⟨entry, hentry, heq.symm⟩)

/-- The type of a position is declared for the first argument that stands for it. -/
theorem exists_firstStandsFor {rewritten : Rewritten} {arguments : List String}
    {types : List DataType} {n : Nat} {type : DataType} (hlength : types.length = arguments.length)
    (h : (n, type) ∈ places rewritten (arguments.zip types)) :
    ∃ i, FirstStandsFor rewritten arguments n i ∧ types[i]? = some type := by
  obtain ⟨before, argument, after, hzip, hinspect, hearlier⟩ := mem_places_iff.mp h
  have hpair : (arguments.zip types)[before.length]? = some (argument, type) := by
    rw [hzip]
    simp
  obtain ⟨hargument, htype⟩ := List.getElem?_zip_eq_some.mp hpair
  refine ⟨before.length, ⟨⟨argument, hargument, inspect_eq_position_iff.mp hinspect⟩, ?_⟩, htype⟩
  intro j hj earlier hget hstands
  have hjlength : j < types.length := by
    rw [hlength]
    exact (List.getElem?_eq_some_iff.mp hget).1
  have hpair : (arguments.zip types)[j]? = some (earlier, types[j]) :=
    List.getElem?_zip_eq_some.mpr ⟨hget, List.getElem?_eq_getElem hjlength⟩
  rw [hzip, List.getElem?_append_left hj] at hpair
  exact hearlier _ (List.mem_of_getElem? hpair) (inspect_eq_position_iff.mpr hstands)

/-! ## Settled queries -/

/-- A query that is described without the server is a call that the registry describes. -/
theorem exists_form_of_describe {dsn : String} {server : Server} {snapshot : Snapshot}
    {query : String} {description : Description}
    (h : describe dsn server snapshot query = (.ok (.ok description), [])) :
    ∃ form rewritten, CallForm.text form = query.toList ∧
      rewrite query.toList = .ok rewritten ∧
      Registry.describe snapshot form.call rewritten = .ok (some description) := by
  obtain ⟨rewritten, hrewrite, _⟩ := arranged_of_describe h
  obtain ⟨call, hcall, hregistry⟩ := (describe_eq_settled_iff hrewrite).mp h
  obtain ⟨form, htext, rfl⟩ := call?_eq_some_iff_form.mp hcall
  exact ⟨form, rewritten, htext, hrewrite, hregistry⟩

/-- What the registry describes is settled. -/
theorem settles_of_describe {snapshot : Snapshot} {form : CallForm} {rewritten : Rewritten}
    {description : Description} (hrewrite : rewrite form.text = .ok rewritten)
    (h : Registry.describe snapshot form.call rewritten = .ok (some description)) :
    ∃ signature, Settles snapshot form rewritten signature description := by
  obtain ⟨signature, hcandidates, hplain, hdescribe⟩ := describe_eq_some h
  obtain ⟨_, hparameters, hcolumns⟩ := describeWith_eq_some hdescribe
  obtain ⟨before, after, hstored, hfits, hothers⟩ := candidates_eq_singleton_iff.mp hcandidates
  have harranged := Registry.arranged_of_describe h
  rw [returnsPlain, Bool.and_eq_true, Bool.not_eq_true', Bool.not_eq_true'] at hplain
  refine ⟨signature, ⟨before, after, hstored, hfits, hothers⟩, hplain, harranged.increasing,
    fun position => ?_, ?_, ?_, hcolumns⟩
  · have hpositions (n : Nat) := (settled_of_describe h).2 n
    simp only [inspect_eq_position_iff] at hpositions
    constructor
    · intro hmem
      obtain ⟨parameter, hparameter, rfl⟩ := List.mem_map.mp hmem
      obtain ⟨n, hn, _⟩ := harranged.named parameter hparameter
      rw [hn] at hmem ⊢
      exact ⟨n, rfl, (hpositions n).mp hmem⟩
    · rintro ⟨n, rfl, hstands⟩
      exact (hpositions n).mpr hstands
  · rw [hparameters, List.forall_mem_map]
    rintro ⟨n, type⟩ hentry
    obtain ⟨i, hfirst, htype⟩ := exists_firstStandsFor hfits.1 (List.mem_mergeSort.mp hentry)
    exact ⟨n, i, rfl, rfl, hfirst, htype⟩
  · intro argument hargument n hbare
    exact nameAt?_of_numbered (call?_eq_some_iff_form.mpr ⟨form, rfl, rfl⟩) hrewrite hargument hbare

/-- **What the registry settles.** Every argument of a call that is one placeholder has the position
that rewriting writes in its place. A query that is described without the server is such a call, and
it is described by the one overload that fits. -/
theorem describe_settles :
    (∀ (form : CallForm) (rewritten : Rewritten), rewrite form.text = .ok rewritten →
      form.Numbered rewritten) ∧
    ∀ (dsn : String) (server : Server) (snapshot : Snapshot) (query : String)
      (description : Description),
      describe dsn server snapshot query = (.ok (.ok description), []) →
      ∃ form rewritten signature, form.text = query.toList ∧
        rewrite query.toList = .ok rewritten ∧
        Settles snapshot form rewritten signature description := by
  refine ⟨fun _ _ => numbered_of_rewrite, fun dsn server snapshot query description h => ?_⟩
  obtain ⟨form, rewritten, htext, hrewrite, hregistry⟩ := exists_form_of_describe h
  obtain ⟨signature, hsettles⟩ := settles_of_describe (htext ▸ hrewrite) hregistry
  exact ⟨form, rewritten, signature, htext, hrewrite, hsettles⟩

/-- A call of the function with one named argument is described, in whatever letter case. -/
theorem describe_increment_of_call {query name : String} {text : List Char}
    (hrewrite : rewrite query.toList = .ok ⟨text, [(1, "a")]⟩)
    (hcall : call? query.toList = some ⟨name, none, ["@a"]⟩)
    (hname : Text.lowered name = Text.lowered "increment") :
    describe "" silentServer incrementSnapshot query =
      (.ok (.ok ⟨[⟨1, some "a", .unknown⟩], [⟨"increment", .unknown, true, false⟩]⟩), []) := by
  have hbare : barePlaceholder? "@a".toList = .ok (some (.named "a")) := by decide +kernel
  have hposition : position? ⟨text, [(1, "a")]⟩ (.named "a") = some 1 := by
    change (([(1, "a")] : List (Nat × String)).find? fun entry =>
      Text.lower entry.2.toList == Text.lower ("a".toList.dropWhile (· == '@'))).map Prod.fst = _
    decide +kernel
  have hcollect : collect ⟨text, [(1, "a")]⟩ [] [("@a", .unknown)] =
      .ok (some [(1, .unknown)]) := by
    rw [collect, inspect_eq_position_iff.mpr ⟨_, hbare, hposition⟩]
    rfl
  have hregistry := describe_increment hcollect
  rw [List.mergeSort_singleton, ← describe_of_lowered_eq hname] at hregistry
  exact (describe_eq_settled_iff hrewrite).mpr ⟨_, hcall, hregistry⟩

/-- A call with a blank in front of its argument is settled. -/
theorem increment_settled :
    describe "" silentServer incrementSnapshot "SELECT increment( @a)" =
        (.ok (.ok ⟨[⟨1, some "a", .unknown⟩], [⟨"increment", .unknown, true, false⟩]⟩), []) ∧
      ∃ form rewritten signature, form.text = "SELECT increment( @a)".toList ∧
        rewrite "SELECT increment( @a)".toList = .ok rewritten ∧
        Settles incrementSnapshot form rewritten signature
          ⟨[⟨1, some "a", .unknown⟩], [⟨"increment", .unknown, true, false⟩]⟩ := by
  have hrewrite : rewrite "SELECT increment( @a)".toList =
      .ok ⟨"SELECT increment( $1)".toList, [(1, "a")]⟩ := by decide +kernel
  have hcall : call? "SELECT increment( @a)".toList = some ⟨"increment", none, ["@a"]⟩ := by
    decide +kernel
  have hdescribe := describe_increment_of_call hrewrite hcall rfl
  exact ⟨hdescribe, describe_settles.2 _ _ _ _ _ hdescribe⟩

end QueryAudit
