import QueryAudit.Proofs.Advice
import QueryAudit.Proofs.Conversation
import QueryAudit.Proofs.Query.Recorded

/-!
# The parameters of a description

The parameters of a description stand in the order of their positions, whoever describes the query,
and each has the name that is recorded at its position. Two of them never have one key, also when
letter case does not count, so the analysis loses none and reports every one that is not supplied.
-/

namespace QueryAudit

open Query

variable {rewritten : Rewritten} {parameters : List Parameter}

/-! ## Letter case of keys -/

/-- A character that has no other lower case. -/
def StaysLower (c : Char) : Prop :=
  c.toNat < 0x80 ∧ c.toLower = c

/-- The lower case of an ASCII character at the start of a text is that of the character. -/
theorem lowerAfter_cons_of_ascii {c : Char} (h : c.toNat < 0x80) (before rest : List Char) :
    Text.lowerAfter before (c :: rest) = c.toLower :: Text.lowerAfter (c :: before) rest := by
  have hsigma : c.toNat ≠ 0x3A3 := by omega
  simp only [Text.lowerAfter, if_neg hsigma, Text.lowerChar, if_pos h, List.singleton_append]

theorem lowerAfter_eq_self {text : List Char} (h : ∀ c ∈ text, StaysLower c)
    (before : List Char) : Text.lowerAfter before text = text := by
  induction text generalizing before with
  | nil => rfl
  | cons c rest ih =>
    obtain ⟨hascii, hlower⟩ := h c List.mem_cons_self
    rw [lowerAfter_cons_of_ascii hascii, hlower, ih fun d hd => h d (List.mem_cons_of_mem _ hd)]

theorem staysLower_of_isDigit {c : Char} (h : Text.isDigit c = true) : StaysLower c := by
  simp only [Text.isDigit, Char.le_def, decide_eq_true_eq, UInt32.le_iff_toNat_le] at h
  have hnine : '9'.val.toNat = 57 := rfl
  have hupper : 'A'.val.toNat = 65 := rfl
  have hchar : c.toNat = c.val.toNat := rfl
  refine ⟨by omega, dif_neg ?_⟩
  rintro ⟨hlow, -⟩
  rw [ge_iff_le, UInt32.le_iff_toNat_le] at hlow
  omega

/-- No character of a name becomes a dollar sign. -/
theorem toLower_ne_dollar {c : Char} (h : isNameStart c = true) :
    c.toNat < 0x80 ∧ c.toLower ≠ '$' := by
  simp only [isNameStart, Bool.or_eq_true, isAlpha_iff, beq_iff_eq] at h
  rcases h with hletter | rfl
  · refine ⟨by omega, fun hdollar => ?_⟩
    have hsign : '$'.toNat = 36 := rfl
    by_cases hupper : c.val ≥ 'A'.val ∧ c.val ≤ 'Z'.val
    · have hlower : c.toLower.val = c.val + ('a'.val - 'A'.val) :=
        congrArg Char.val (dif_pos hupper)
      have hsum : c.toLower.toNat = (c.toNat + 32) % 2 ^ 32 :=
        (congrArg UInt32.toNat hlower).trans (UInt32.toNat_add _ _)
      rw [hdollar] at hsum
      omega
    · have hlower : c.toLower = c := dif_neg hupper
      rw [← hdollar, hlower] at hsign
      omega
  · decide

/-- The key of a parameter without a name is its own lower case. -/
theorem lower_numberKey (n : Nat) :
    Text.lower ('$' :: Text.numeral n) = '$' :: Text.numeral n := by
  refine lowerAfter_eq_self (fun c hc => ?_) []
  rcases List.mem_cons.mp hc with rfl | hdigit
  · exact ⟨by decide, by decide⟩
  · exact staysLower_of_isDigit (isDigit_of_mem_numeral hdigit)

/-- The lower case of a name does not start with a dollar sign. -/
theorem lower_name_ne_dollar {name : List Char} (h : IsName name) (rest : List Char) :
    Text.lower name ≠ '$' :: rest := by
  obtain ⟨c, tail, rfl, hstart, _⟩ := h
  obtain ⟨hascii, hne⟩ := toLower_ne_dollar hstart
  rw [Text.lower, lowerAfter_cons_of_ascii hascii]
  intro hequal
  exact hne (List.cons.inj hequal).1

/-! ## Keys and positions -/

/-- A recorded name is the name of a placeholder. -/
theorem mem_names_of_nameAt? {query : List Char} {n : Nat} {name : String}
    (hrewrite : rewrite query = .ok rewritten) (h : rewritten.nameAt? n = some name) :
    IsName name.toList ∧ (n, name) ∈ rewritten.names := by
  obtain ⟨_, rfl⟩ := rewrite_eq_ok_iff.mp hrewrite
  have hpositions : ((rewriteAfter (highestOf (spans query)) (spans query)).names.map
      Prod.fst).Nodup := by
    rw [map_fst_names_rewriteAfter]
    exact List.nodup_range'
  have hmem := (Entries.get?_eq_some_iff hpositions).mp h
  obtain ⟨entry, i, hentry, -, rfl⟩ := mem_names_rewriteAfter.mp hmem
  have hfirst := Entries.mem_of_mem_firsts (List.mem_of_getElem? hentry)
  obtain ⟨name, hname, rfl⟩ := List.mem_map.mp hfirst
  obtain ⟨piece, hpiece, hplaceholder⟩ := List.mem_filterMap.mp hname
  refine ⟨?_, hmem⟩
  cases piece with
  | copied text => cases hplaceholder
  | placeholder other =>
    obtain rfl := Option.some.inj hplaceholder
    rw [String.toList_ofList]
    exact (cuts_iff.mpr rfl).isName_of_mem hpiece

theorem lowered_key_of_no_name (n : Nat) (type : DataType) :
    Text.lowered (Parameter.key ⟨n, none, type⟩) = String.ofList ('$' :: Text.numeral n) := by
  have hkey : (Parameter.key ⟨n, none, type⟩).toList = '$' :: Text.numeral n := by
    change ("$" ++ String.ofList (Text.numeral n)).toList = _
    simp
  rw [Text.lowered, hkey, lower_numberKey]

/-- A name and a number have different keys. -/
theorem lowered_key_ne {query : List Char} {n m : Nat} {name : String} {type type' : DataType}
    (hrewrite : rewrite query = .ok rewritten) (h : rewritten.nameAt? n = some name) :
    Text.lowered (Parameter.key ⟨n, some name, type⟩) ≠
      Text.lowered (Parameter.key ⟨m, none, type'⟩) := by
  rw [lowered_key_of_no_name]
  intro hequal
  have hname := (mem_names_of_nameAt? hrewrite h).1
  exact lower_name_ne_dollar hname _ (String.ofList_inj.mp hequal)

/-- The key of a parameter in lower case tells its position. -/
theorem position_eq_of_lowered_key {query : List Char} {n m : Nat} {type type' : DataType}
    (hrewrite : rewrite query = .ok rewritten)
    (h : Text.lowered (Parameter.key ⟨n, rewritten.nameAt? n, type⟩) =
      Text.lowered (Parameter.key ⟨m, rewritten.nameAt? m, type'⟩)) : n = m := by
  cases hn : rewritten.nameAt? n with
  | none =>
    cases hm : rewritten.nameAt? m with
    | none =>
      rw [hn, hm, lowered_key_of_no_name, lowered_key_of_no_name] at h
      have hnumerals := (List.cons.inj (String.ofList_inj.mp h)).2
      rw [← digitsValue_numeral n, hnumerals, digitsValue_numeral]
    | some name =>
      rw [hn, hm] at h
      exact absurd h.symm (lowered_key_ne hrewrite hm)
  | some name =>
    cases hm : rewritten.nameAt? m with
    | none =>
      rw [hn, hm] at h
      exact absurd h (lowered_key_ne hrewrite hn)
    | some name' =>
      rw [hn, hm] at h
      obtain ⟨_, hmem⟩ := mem_names_of_nameAt? hrewrite hn
      obtain ⟨_, hmem'⟩ := mem_names_of_nameAt? hrewrite hm
      obtain ⟨_, rfl⟩ := rewrite_eq_ok_iff.mp hrewrite
      have hdistinct := (records_rewriteAfter (highestOf (spans query)) (spans query)).distinct
      have hentries := List.inj_on_of_nodup_map hdistinct hmem hmem' (String.ofList_inj.mp h)
      exact (Prod.mk.inj hentries).1

/-- Parameters in the order of their positions, each with the name that is recorded there. -/
structure Arranged (rewritten : Rewritten) (parameters : List Parameter) : Prop where
  /-- The names are the recorded ones. -/
  named : ∀ parameter ∈ parameters, ∃ n : Nat, parameter.position = n ∧
    parameter.name = rewritten.nameAt? n
  /-- The positions increase. -/
  increasing : (parameters.map Parameter.position).Pairwise (· < ·)

/-- Entries in the order of their positions make arranged parameters. -/
theorem arranged_map {entries : Entries Nat DataType}
    (h : entries.Pairwise fun a b => a.1 < b.1) :
    Arranged rewritten (entries.map fun entry =>
      ⟨entry.1, rewritten.nameAt? entry.1, entry.2⟩) where
  named := by
    rw [List.forall_mem_map]
    exact fun entry _ => ⟨entry.1, rfl, rfl⟩
  increasing := by
    rw [List.map_map, List.pairwise_map]
    exact h.imp Int.ofNat_lt.mpr

/-- No two of the keys are equal when letter case does not count. -/
theorem Arranged.nodup_keys {query : List Char} (h : Arranged rewritten parameters)
    (hrewrite : rewrite query = .ok rewritten) :
    (parameters.map fun parameter => Text.lowered parameter.key).Nodup := by
  refine List.pairwise_map.mpr ((List.pairwise_map.mp h.increasing).imp_of_mem ?_)
  intro parameter parameter' hmem hmem' hlt hkeys
  obtain ⟨n, hn, hname⟩ := h.named parameter hmem
  obtain ⟨m, hm, hname'⟩ := h.named parameter' hmem'
  obtain ⟨position, name, type⟩ := parameter
  obtain ⟨position', name', type'⟩ := parameter'
  simp only at hn hm hname hname' hlt
  subst hn hm hname hname'
  obtain rfl := position_eq_of_lowered_key hrewrite hkeys
  exact absurd hlt (Int.lt_irrefl _)

/-! ## Both ways to a description -/

/-- The server numbers the parameters from one. -/
theorem parametersFrom_eq_map (snapshot : Snapshot) (rewritten : Rewritten) (position : Nat)
    (oids : List Int) :
    Describe.parametersFrom snapshot rewritten position oids =
      ((oids.zipIdx position).map fun place => (place.2, Describe.typeOf snapshot place.1)).map
        fun entry => ⟨entry.1, rewritten.nameAt? entry.1, entry.2⟩ := by
  induction oids generalizing position with
  | nil => rfl
  | cons oid rest ih =>
    rw [Describe.parametersFrom, ih, List.zipIdx_cons, List.map_cons, List.map_cons]

theorem arranged_parametersFrom (snapshot : Snapshot) (rewritten : Rewritten) (position : Nat)
    (oids : List Int) :
    Arranged rewritten (Describe.parametersFrom snapshot rewritten position oids) := by
  rw [parametersFrom_eq_map]
  exact arranged_map (List.pairwise_map.mpr (Entries.pairwise_zipIdx oids position))

theorem positions_parametersFrom (snapshot : Snapshot) (rewritten : Rewritten) (position : Nat)
    (oids : List Int) :
    (Describe.parametersFrom snapshot rewritten position oids).map Parameter.position =
      (List.range' position oids.length).map Int.ofNat := by
  induction oids generalizing position with
  | nil => rfl
  | cons oid rest ih =>
    rw [Describe.parametersFrom, List.map_cons, ih, List.length_cons, List.range'_succ,
      List.map_cons]
    rfl

/-- The registry sorts what it has collected. -/
theorem Registry.arranged_of_describe {snapshot : Snapshot} {call : Call}
    {description : Description}
    (h : Registry.describe snapshot call rewritten = .ok (some description)) :
    Arranged rewritten description.parameters := by
  obtain ⟨signature, _, _, hdescribe⟩ := describe_eq_some h
  obtain ⟨_, hparameters, _⟩ := describeWith_eq_some hdescribe
  rw [hparameters]
  exact arranged_map (Entries.pairwise_lt_mergeSort (Entries.nodup_keys_firsts _))

/-- Whoever describes the query, the parameters are arranged; the server counts them from one. -/
theorem arranged_of_describe {dsn : String} {server : Server} {snapshot : Snapshot}
    {query : String} {description : Description} {sent : List Sent}
    (h : describe dsn server snapshot query = (.ok (.ok description), sent)) :
    ∃ rewritten, rewrite query.toList = .ok rewritten ∧
      Arranged rewritten description.parameters ∧
      (sent ≠ [] → description.parameters.map Parameter.position =
        (List.range' 1 description.parameters.length).map Int.ofNat) := by
  rcases describe_cases dsn server snapshot query with ⟨_, error, hdescribe⟩ |
    ⟨settled, ⟨rewritten, hrewrite, hregistry⟩, hdescribe⟩ | ⟨rewritten, hleft, hdescribe⟩
  · rw [hdescribe] at h
    cases (Prod.mk.inj h).1
  · rw [hdescribe] at h
    obtain ⟨hresult, rfl⟩ := Prod.mk.inj h
    obtain rfl := Except.ok.inj (Except.ok.inj hresult)
    refine ⟨rewritten, hrewrite, ?_, fun hsent => absurd rfl hsent⟩
    rw [Describe.byRegistry] at hregistry
    split at hregistry
    · cases hregistry
    · exact Registry.arranged_of_describe hregistry
  · rw [hdescribe] at h
    obtain ⟨_, report, _, _, rfl⟩ := accepted_of_overServer (congrArg Prod.fst h)
    refine ⟨rewritten, hleft.1, arranged_parametersFrom snapshot rewritten 1 _, fun _ => ?_⟩
    have hlength : (Describe.parametersFrom snapshot rewritten 1 report.parameters).length =
        report.parameters.length := by
      rw [parametersFrom_eq_map, List.length_map, List.length_map, List.length_zipIdx]
    rw [Describe.description, hlength]
    exact positions_parametersFrom snapshot rewritten 1 report.parameters

/-! ## What the analysis reports -/

/-- Whether a call site supplies a parameter, when letter case does not count. -/
def Operation.supplies (operation : Operation) (parameter : Parameter) : Bool :=
  operation.parameters.any fun usage => Text.lowered usage.name == Text.lowered parameter.key

namespace Analysis

variable {description : Description}

theorem isSome_get?_suppliedParameters (operation : Operation) (parameter : Parameter) :
    ((suppliedParameters operation).get? (Text.lowered parameter.key)).isSome =
      operation.supplies parameter := by
  rw [get?_suppliedParameters, List.isSome_find?]
  rfl

/-- A parameter is reported missing when it is not supplied, if no two have one key. -/
theorem missingParameters_eq_map (operation : Operation)
    (hkeys : (description.parameters.map fun parameter => Text.lowered parameter.key).Nodup) :
    missingParameters operation (expectedParameters description) (suppliedParameters operation) =
      (description.parameters.filter fun parameter => !operation.supplies parameter).map
        (missingParameter operation.range) := by
  have hexpected : expectedParameters description = description.parameters.map fun parameter =>
      (Text.lowered parameter.key, parameter) := by
    refine Entries.firsts_eq_self ?_
    rw [List.map_map]
    exact hkeys
  rw [hexpected, missingParameters, List.filterMap_map]
  induction description.parameters with
  | nil => rfl
  | cons parameter rest ih =>
    rw [List.filterMap_cons, ih, List.filter_cons, Function.comp_apply]
    dsimp only
    rw [isSome_get?_suppliedParameters]
    cases operation.supplies parameter <;> rfl

end Analysis

/-- No parameter of a description is hidden from the analysis. -/
structure Unhidden (query : String) (description : Description) (sent : List Sent) : Prop where
  /-- The positions increase. -/
  increasing : (description.parameters.map Parameter.position).Pairwise (· < ·)
  /-- When the server is asked, they count from one. -/
  counted : sent ≠ [] → description.parameters.map Parameter.position =
    (List.range' 1 description.parameters.length).map Int.ofNat
  /-- A parameter has the name that the rewriting recorded at its position, or no name. -/
  named : ∃ rewritten, rewrite query.toList = .ok rewritten ∧
    ∀ parameter ∈ description.parameters, ∃ n : Nat, parameter.position = n ∧
      parameter.key = (rewritten.nameAt? n).getD ("$" ++ String.ofList (Text.numeral n))
  /-- No two have one key when letter case does not count. -/
  keys : (description.parameters.map fun parameter => Text.lowered parameter.key).Nodup
  /-- Each that is not supplied is reported once, and nothing else is reported as missing. -/
  missing : ∀ operation : Operation,
    ((Analysis.checkParameters operation description).filter fun finding =>
        decide (finding.code = .missingParameter)) =
      (description.parameters.filter fun parameter => !operation.supplies parameter).map
        (Analysis.missingParameter operation.range)
  /-- The reported ones and the supplied ones are all. -/
  total : ∀ operation : Operation,
    ((Analysis.checkParameters operation description).countP fun finding =>
        decide (finding.code = .missingParameter)) +
      description.parameters.countP operation.supplies = description.parameters.length

/-- Whoever describes a query, no parameter is hidden: the keys are distinct when letter case does
not count, so that each parameter that a call site does not supply is reported. -/
theorem describe_unhidden {dsn : String} {server : Server} {snapshot : Snapshot} {query : String}
    {description : Description} {sent : List Sent}
    (h : describe dsn server snapshot query = (.ok (.ok description), sent)) :
    Unhidden query description sent := by
  obtain ⟨rewritten, hrewrite, harranged, hcounted⟩ := arranged_of_describe h
  have hkeys := harranged.nodup_keys hrewrite
  have hmissing (operation : Operation) :=
    (Analysis.filter_missing_checkParameters operation description).trans
      (Analysis.missingParameters_eq_map operation hkeys)
  refine ⟨harranged.increasing, hcounted, ⟨rewritten, hrewrite, ?_⟩, hkeys, hmissing, ?_⟩
  · intro parameter hparameter
    obtain ⟨n, hposition, hname⟩ := harranged.named parameter hparameter
    refine ⟨n, hposition, ?_⟩
    rw [Parameter.key, hname, hposition]
    cases rewritten.nameAt? n <;> rfl
  · intro operation
    rw [List.countP_eq_length_filter, hmissing, List.length_map, ← List.countP_eq_length_filter,
      List.length_eq_countP_add_countP operation.supplies, Nat.add_comm]
    simp

/-- A server that accepts every statement and reports one parameter. -/
def acceptingServer : Server :=
  ⟨none, .utf8, fun _ => .reports ⟨true, none, none, none, [], []⟩,
    fun _ => .reports ⟨true, none, none, none, [23], []⟩⟩

theorem describe_named_placeholder :
    describe "" acceptingServer ⟨[], [], [], []⟩ "SELECT @a" =
      (.ok (.ok ⟨[⟨1, some "a", .unknown⟩], []⟩),
        [.connect "", .prepare (Text.utf8 "SELECT $1".toList), .describe, .deallocate]) := by
  have hrewrite : rewrite "SELECT @a".toList = .ok ⟨"SELECT $1".toList, [(1, "a")]⟩ := by
    decide +kernel
  have hcall : call? "SELECT @a".toList = none := by decide +kernel
  have htakes : acceptingServer.Takes "SELECT $1".toList (Text.utf8 "SELECT $1".toList) :=
    ⟨rfl, by decide +kernel⟩
  unfold describe
  -- The text is not to be computed.
  generalize "SELECT $1".toList = text at hrewrite htakes ⊢
  have hover := @overServer_of_takes "" acceptingServer ⟨[], [], [], []⟩ ⟨text, [(1, "a")]⟩ _ htakes
  simp only [hrewrite, Describe.byRegistry, hcall, hover]
  rfl

/-- A call site that does not supply the parameter has one finding about it. -/
theorem unsupplied_placeholder_reported :
    describe "" acceptingServer ⟨[], [], [], []⟩ "SELECT @a" =
        (.ok (.ok ⟨[⟨1, some "a", .unknown⟩], []⟩),
          [.connect "", .prepare (Text.utf8 "SELECT $1".toList), .describe, .deallocate]) ∧
      ((Analysis.checkParameters ⟨some "SELECT @a", .start, [], [], .rows⟩
          ⟨[⟨1, some "a", .unknown⟩], []⟩).countP fun finding =>
        decide (finding.code = .missingParameter)) = 1 := by
  have htotal := (describe_unhidden describe_named_placeholder).total
    ⟨some "SELECT @a", .start, [], [], .rows⟩
  refine ⟨describe_named_placeholder, ?_⟩
  simpa [Operation.supplies] using htotal

end QueryAudit
