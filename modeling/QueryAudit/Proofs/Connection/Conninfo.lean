import QueryAudit.Connection.Conninfo
import QueryAudit.Proofs.Entries
import Mathlib.Data.List.TakeWhile

/-!
# Reading connection texts that were written

What is written is read back unchanged, whatever the values hold: blanks, quotes, backslashes and
equals signs do not get out of their value. A text is read setting by setting, so the proof follows
one setting from its name over the equals sign and its value to the gap behind it.
-/

namespace QueryAudit.Connection

/-! ## Values -/

/-- What stands between the parts of a connection text is a blank, but not every blank does. -/
theorem isBlank_of_isGap {c : Char} (h : isGap c = true) : Text.isBlank c = true := by
  rw [isGap, Bool.or_eq_true, beq_iff_eq, decide_eq_true_eq] at h
  rcases h with rfl | ⟨hfirst, hlast⟩
  · decide
  · have hnine : (9 : Nat) ≤ c.toNat := hfirst
    have hthirteen : c.toNat ≤ 13 := hlast
    simp [Text.isBlank, Text.isWhiteSpace, hnine, hthirteen]

theorem escapeValue_cons (c : Char) (s : List Char) :
    escapeValue (c :: s) = (if c = '\\' ∨ c = '\'' then ['\\', c] else [c]) ++ escapeValue s :=
  List.flatMap_cons

/-- Where a value without quotes ends: at a gap or with the text. -/
def EndsValue (after : List Char) : Prop :=
  ∀ c ∈ after.head?, isGap c = true

theorem plainValue_backslash (c : Char) (rest : List Char) :
    plainValue ('\\' :: c :: rest) = (c :: (plainValue rest).1, (plainValue rest).2) := by
  rw [plainValue]

theorem plainValue_cons {c : Char} (hbackslash : c ≠ '\\') (hgap : isGap c = false)
    (rest : List Char) :
    plainValue (c :: rest) = (c :: (plainValue rest).1, (plainValue rest).2) := by
  rw [plainValue]
  · simp only [hgap, Bool.false_eq_true, if_false]
  · rintro rfl
    exact absurd rfl hbackslash
  · rintro d more rfl
    exact absurd rfl hbackslash

/-- A value without gaps is read up to where it ends, and the gap is dropped. -/
theorem plainValue_escapeValue {s after : List Char} (hs : ∀ c ∈ s, isGap c = false)
    (hafter : EndsValue after) : plainValue (escapeValue s ++ after) = (s, after.tail) := by
  induction s with
  | nil =>
    cases after with
    | nil => rfl
    | cons c rest =>
      have hgap : isGap c = true := hafter c rfl
      have hbackslash : c ≠ '\\' := by
        rintro rfl
        cases hgap
      rw [escapeValue, List.flatMap_nil, List.nil_append, plainValue, if_pos hgap, List.tail_cons]
      · rintro rfl
        exact absurd rfl hbackslash
      · rintro d more rfl
        exact absurd rfl hbackslash
  | cons c s ih =>
    obtain ⟨hc, hs⟩ := List.forall_mem_cons.mp hs
    rw [escapeValue_cons, List.append_assoc]
    split
    · rw [List.cons_append, List.singleton_append, plainValue_backslash, ih hs]
    · rename_i hplain
      rw [List.singleton_append, plainValue_cons (fun h => hplain (Or.inl h)) hc, ih hs]

theorem quotedValue?_cons {c : Char} (hplain : ¬(c = '\\' ∨ c = '\'')) (rest : List Char) :
    quotedValue? (c :: rest) =
      (quotedValue? rest).map fun (value, after) => (c :: value, after) := by
  rw [quotedValue?]
  · rintro rfl
    exact hplain (Or.inr rfl)
  · rintro rfl
    exact absurd (Or.inl rfl) hplain
  · rintro d more rfl
    exact absurd (Or.inl rfl) hplain

/-- A value between quotes is read up to the quote behind it. -/
theorem quotedValue?_escapeValue (s after : List Char) :
    quotedValue? (escapeValue s ++ '\'' :: after) = some (s, after) := by
  induction s with
  | nil =>
    rw [escapeValue, List.flatMap_nil, List.nil_append, quotedValue?]
  | cons c s ih =>
    rw [escapeValue_cons, List.append_assoc]
    split
    · rw [List.cons_append, List.singleton_append, quotedValue?, ih, Option.map_some]
    · rename_i hplain
      rw [List.singleton_append, quotedValue?_cons hplain, ih, Option.map_some]

/-- A value is not taken for a blank or, without quotes, for a value between them. -/
theorem escapeValue_head {s : List Char} (hs : s ≠ []) (hgaps : ∀ c ∈ s, isGap c = false)
    (after : List Char) :
    ∃ d rest, escapeValue s ++ after = d :: rest ∧ isGap d = false ∧ d ≠ '\'' := by
  obtain ⟨c, s, rfl⟩ := List.exists_cons_of_ne_nil hs
  rw [escapeValue_cons, List.append_assoc]
  split
  · exact ⟨'\\', _, rfl, rfl, by decide⟩
  · rename_i hplain
    exact ⟨c, _, rfl, hgaps c List.mem_cons_self, fun h => hplain (Or.inr h)⟩

/-- A written value is read back. What follows it stays, apart from the gap in front. -/
theorem readValue_writeValue (name s : List Char) {after : List Char} (hafter : EndsValue after) :
    ∃ rest, readValue name ((writeValue s ++ after).dropWhile isGap) = .ok ⟨name, s, rest⟩ ∧
      rest.dropWhile isGap = after.dropWhile isGap := by
  rw [writeValue]
  split
  · refine ⟨after, ?_, rfl⟩
    have hquote : isGap '\'' = false := rfl
    rw [List.append_assoc, List.cons_append, List.dropWhile_cons_of_neg (by simp [hquote]),
      List.singleton_append, readValue, quotedValue?_escapeValue]
  · rename_i hplain
    rw [Bool.or_eq_true, not_or, List.isEmpty_iff, List.any_eq_true] at hplain
    obtain ⟨hne, hblanks⟩ := hplain
    have hgaps : ∀ c ∈ s, isGap c = false := fun c hc =>
      Bool.eq_false_iff.mpr fun hgap => hblanks ⟨c, hc, isBlank_of_isGap hgap⟩
    obtain ⟨d, rest, hhead, hgap, hquote⟩ := escapeValue_head hne hgaps after
    refine ⟨after.tail, ?_, ?_⟩
    · have hvalue := plainValue_escapeValue hgaps hafter
      rw [hhead] at hvalue ⊢
      rw [List.dropWhile_cons_of_neg (by simp [hgap]), readValue, hvalue]
      rintro quoted heq
      exact hquote (List.head_eq_of_cons_eq heq)
    · cases after with
      | nil => rfl
      | cons c after => rw [List.tail_cons, List.dropWhile_cons_of_pos (hafter c rfl)]

/-! ## Settings -/

/-- The characters of a setting. -/
def settingChars (setting : String × String) : List Char :=
  setting.1.toList ++ '=' :: writeValue setting.2.toList

theorem toList_writeSetting (setting : String × String) :
    (writeSetting setting).toList = settingChars setting := by
  simp only [writeSetting, String.toList_append, String.toList_ofList, List.append_assoc]
  rfl

/-- The characters of further settings, each behind a space. -/
def furtherChars (settings : List (String × String)) : List Char :=
  settings.flatMap fun setting => ' ' :: settingChars setting

theorem furtherChars_cons (setting : String × String) (rest : List (String × String)) :
    furtherChars (setting :: rest) = ' ' :: settingChars setting ++ furtherChars rest :=
  List.flatMap_cons

theorem endsValue_furtherChars (settings : List (String × String)) :
    EndsValue (furtherChars settings) := by
  cases settings with
  | nil => simp [EndsValue, furtherChars]
  | cons setting rest =>
    rintro c hc
    obtain rfl : ' ' = c := Option.some.inj hc
    rfl

theorem toList_writeConninfo_cons (setting : String × String) (rest : List (String × String)) :
    (writeConninfo (setting :: rest)).toList = settingChars setting ++ furtherChars rest := by
  induction rest generalizing setting with
  | nil => simp [writeConninfo, furtherChars, toList_writeSetting]
  | cons next rest ih =>
    have hcons : writeConninfo (setting :: next :: rest) =
        writeSetting setting ++ " " ++ writeConninfo (next :: rest) :=
      String.intercalate_cons_cons
    rw [hcons, String.toList_append, String.toList_append, toList_writeSetting, ih,
      furtherChars_cons, List.append_assoc]
    rfl

/-- A character of ASCII, though not the null character. -/
def isPlain (c : Char) : Bool :=
  decide (0 < c.toNat ∧ c.toNat < 0x80)

/-- A plain character that does not end a name. -/
def isInside (c : Char) : Bool :=
  c != '=' && !isGap c && isPlain c

theorem isInside_of_mem_name {name : String} (h : name ∈ optionNames) :
    ∀ c ∈ name.toList, isInside c = true := by
  have hall : (optionNames.all fun name => name.toList.all isInside) = true := by decide
  exact List.all_eq_true.mp (List.all_eq_true.mp hall name h)

/-- A setting does not start with a gap. -/
theorem settingChars_head {setting : String × String} (hname : setting.1 ∈ optionNames)
    (after : List Char) :
    ∃ c rest, settingChars setting ++ after = c :: rest ∧ isGap c = false := by
  rw [settingChars]
  cases hchars : setting.1.toList with
  | nil => exact ⟨'=', _, rfl, rfl⟩
  | cons c name =>
    have hc := isInside_of_mem_name hname c (hchars ▸ List.mem_cons_self)
    simp only [isInside, Bool.and_eq_true, Bool.not_eq_true'] at hc
    exact ⟨c, _, rfl, hc.1.2⟩

/-- A written text does not start with a gap. -/
theorem dropWhile_writeConninfo {settings : List (String × String)}
    (hnames : ∀ setting ∈ settings, setting.1 ∈ optionNames) :
    (writeConninfo settings).toList.dropWhile isGap = (writeConninfo settings).toList := by
  cases settings with
  | nil => rfl
  | cons setting settings =>
    obtain ⟨c, rest, hhead, hgap⟩ :=
      settingChars_head (hnames setting List.mem_cons_self) (furtherChars settings)
    rw [toList_writeConninfo_cons, hhead, List.dropWhile_cons_of_neg (by simp [hgap])]

/-- Behind the gap in front of them, further settings are a written text of their own. -/
theorem dropWhile_furtherChars {settings : List (String × String)}
    (hnames : ∀ setting ∈ settings, setting.1 ∈ optionNames) :
    (furtherChars settings).dropWhile isGap = (writeConninfo settings).toList := by
  cases settings with
  | nil => rfl
  | cons setting settings =>
    have hspace : isGap ' ' = true := rfl
    rw [furtherChars_cons, List.cons_append, List.dropWhile_cons_of_pos hspace,
      ← toList_writeConninfo_cons, dropWhile_writeConninfo hnames]

/-- The setting at the start of a text is read back. -/
theorem readSetting_settingChars {setting : String × String} (hname : setting.1 ∈ optionNames)
    {after : List Char} (hafter : EndsValue after) :
    ∃ rest, readSetting (settingChars setting ++ after) =
        .ok ⟨setting.1.toList, setting.2.toList, rest⟩ ∧
      rest.dropWhile isGap = after.dropWhile isGap := by
  have hequals : isGap '=' = false := rfl
  obtain ⟨rest, hread, hrest⟩ := readValue_writeValue setting.1.toList setting.2.toList hafter
  refine ⟨rest, ?_, hrest⟩
  have htext : settingChars setting ++ after =
      setting.1.toList ++ '=' :: (writeValue setting.2.toList ++ after) := by
    rw [settingChars, List.append_assoc, List.cons_append]
  have hoption : optionName (settingChars setting ++ after) = setting.1.toList := by
    have hinside : ∀ c ∈ setting.1.toList, (c != '=' && !isGap c) = true := fun c hc =>
      (Bool.and_eq_true_iff.mp (isInside_of_mem_name hname c hc)).1
    rw [htext, optionName, List.takeWhile_append_of_pos hinside,
      List.takeWhile_cons_of_neg (by decide), List.append_nil]
  rw [readSetting, hoption, htext, List.drop_left, List.dropWhile_cons_of_neg (by simp [hequals])]
  exact hread

/-- Reading goes on behind the setting at the start. -/
theorem readSettings_of_readSetting {s text : List Char} {name value : String} {after : List Char}
    (hs : s.dropWhile isGap = text)
    (hread : readSetting text = .ok ⟨name.toList, value.toList, after⟩)
    (hname : name ∈ optionNames) :
    readSettings s = (readSettings after).map ((name, value) :: ·) := by
  rw [readSettings]
  split
  · rename_i hnil
    rw [← hs, hnil] at hread
    cases hread
  · rename_i c rest hcons
    rw [← hs, hcons] at hread
    split
    · rename_i error herror
      rw [hread] at herror
      cases herror
    · rename_i setting hsetting
      obtain rfl := Except.ok.inj (hread.symm.trans hsetting)
      simp only [String.ofList_toList, List.contains_iff_mem.mpr hname, if_true]

/-- Settings of known options are read back one by one. -/
theorem readSettings_of_written {settings : List (String × String)}
    (hnames : ∀ setting ∈ settings, setting.1 ∈ optionNames) {s : List Char}
    (hs : s.dropWhile isGap = (writeConninfo settings).toList) : readSettings s = .ok settings := by
  induction settings generalizing s with
  | nil =>
    rw [readSettings]
    split
    · rfl
    · rename_i c rest hcons
      rw [hcons] at hs
      cases hs
  | cons setting settings ih =>
    obtain ⟨hname, hnames⟩ := List.forall_mem_cons.mp hnames
    rw [toList_writeConninfo_cons] at hs
    obtain ⟨rest, hread, hrest⟩ :=
      readSetting_settingChars hname (endsValue_furtherChars settings)
    rw [readSettings_of_readSetting hs hread hname,
      ih hnames (hrest.trans (dropWhile_furtherChars hnames))]
    rfl

/-! ## Characters

What holds of the plain characters holds of all characters of a written text when it holds of those
of the values. -/

section Characters

variable {P : Char → Prop}

theorem subset_writeValue (s : List Char) : s ⊆ writeValue s := by
  have hescape : s ⊆ escapeValue s := by
    intro c hc
    refine List.mem_flatMap.mpr ⟨c, hc, ?_⟩
    split <;> simp
  rw [writeValue]
  split
  · exact fun c hc => List.mem_append_left _ (List.mem_cons_of_mem _ (hescape hc))
  · exact hescape

/-- What is written for a value are its characters, backslashes and quotes. -/
theorem mem_writeValue {s : List Char} {c : Char} (h : c ∈ writeValue s) :
    c ∈ s ∨ c = '\\' ∨ c = '\'' := by
  have hescape {c : Char} (h : c ∈ escapeValue s) : c ∈ s ∨ c = '\\' ∨ c = '\'' := by
    obtain ⟨d, hd, hc⟩ := List.mem_flatMap.mp h
    split at hc
    · rcases List.mem_cons.mp hc with rfl | hc
      · exact Or.inr (Or.inl rfl)
      · exact Or.inl (List.mem_singleton.mp hc ▸ hd)
    · exact Or.inl (List.mem_singleton.mp hc ▸ hd)
  rw [writeValue] at h
  split at h
  · rcases List.mem_append.mp h with hfront | hquote
    · rcases List.mem_cons.mp hfront with rfl | hvalue
      · exact Or.inr (Or.inr rfl)
      · exact hescape hvalue
    · exact Or.inr (Or.inr (List.mem_singleton.mp hquote))
  · exact hescape h

theorem forall_mem_settingChars_iff (hP : ∀ c, isPlain c = true → P c)
    {setting : String × String} (hname : setting.1 ∈ optionNames) :
    (∀ c ∈ settingChars setting, P c) ↔ ∀ c ∈ setting.2.toList, P c := by
  constructor
  · intro h c hc
    exact h c (List.mem_append_right _ (List.mem_cons_of_mem _ (subset_writeValue _ hc)))
  · intro h c hc
    rcases List.mem_append.mp hc with hc | hc
    · exact hP c (Bool.and_eq_true_iff.mp (isInside_of_mem_name hname c hc)).2
    · rcases List.mem_cons.mp hc with rfl | hc
      · exact hP _ rfl
      · rcases mem_writeValue hc with hc | rfl | rfl
        · exact h c hc
        · exact hP _ rfl
        · exact hP _ rfl

theorem forall_mem_writeConninfo_iff (hP : ∀ c, isPlain c = true → P c)
    {settings : List (String × String)}
    (hnames : ∀ setting ∈ settings, setting.1 ∈ optionNames) :
    (∀ c ∈ (writeConninfo settings).toList, P c) ↔
      ∀ setting ∈ settings, ∀ c ∈ setting.2.toList, P c := by
  have hfurther {settings : List (String × String)}
      (hnames : ∀ setting ∈ settings, setting.1 ∈ optionNames) :
      (∀ c ∈ furtherChars settings, P c) ↔ ∀ setting ∈ settings, ∀ c ∈ setting.2.toList, P c := by
    rw [furtherChars, List.forall_mem_flatMap]
    refine forall₂_congr fun setting hsetting => ?_
    rw [List.forall_mem_cons, forall_mem_settingChars_iff hP (hnames setting hsetting),
      and_iff_right (hP _ rfl)]
  cases settings with
  | nil => exact iff_of_true (fun c hc => nomatch hc) (fun setting hsetting => nomatch hsetting)
  | cons setting settings =>
    obtain ⟨hname, hnames⟩ := List.forall_mem_cons.mp hnames
    rw [toList_writeConninfo_cons, List.forall_mem_append, List.forall_mem_cons,
      forall_mem_settingChars_iff hP hname, hfurther hnames]

end Characters

/-- A text that does not end before its end: it has no null character. -/
def NulFree (s : String) : Prop :=
  ∀ c ∈ s.toList, (c.toNat != 0) = true

instance : DecidablePred NulFree := fun s =>
  List.decidableBAll (fun c : Char => (c.toNat != 0) = true) s.toList

theorem ne_nul_of_isPlain {c : Char} (h : isPlain c = true) : (c.toNat != 0) = true :=
  bne_iff_ne.mpr (Nat.ne_of_gt (of_decide_eq_true h).1)

/-- A text without surrogates can be written in UTF-8. -/
theorem surrogateError?_eq_none_iff {s : List Char} :
    Text.surrogateError? s = none ↔ ∀ c ∈ s, Text.isSurrogate c = false := by
  have hrun : Text.surrogateError? s = none ↔
      (s.dropWhile fun c => !Text.isSurrogate c) = [] := by
    rw [Text.surrogateError?]
    split
    · rename_i hnil
      exact iff_of_true rfl hnil
    · rename_i hrun
      exact iff_of_false (by simp) hrun
  rw [hrun, List.dropWhile_eq_nil_iff]
  simp

/-! ## Texts -/

/-- A text that is read can be written in UTF-8. -/
theorem surrogateError?_of_readConninfo {s : String} {options : Entries String String}
    (h : readConninfo s = .ok options) : Text.surrogateError? s.toList = none := by
  rw [readConninfo] at h
  split at h
  · cases h
  · assumption

/-- A text that is written for options, each of them once, is read as these options. -/
theorem readConninfo_writeConninfo {settings : List (String × String)}
    (hnames : ∀ setting ∈ settings, setting.1 ∈ optionNames)
    (hvalues : ∀ setting ∈ settings, NulFree setting.2) (hdistinct : Entries.Distinct settings)
    (hutf8 : Text.surrogateError? (writeConninfo settings).toList = none) :
    readConninfo (writeConninfo settings) = .ok settings := by
  have hwhole : (writeConninfo settings).toList.takeWhile (·.toNat != 0) =
      (writeConninfo settings).toList :=
    List.takeWhile_eq_self_iff.mpr
      ((forall_mem_writeConninfo_iff (fun _ => ne_nul_of_isPlain) hnames).mpr hvalues)
  rw [readConninfo, hutf8]
  simp only [hwhole, readSettings_of_written hnames (dropWhile_writeConninfo hnames), Except.map,
    Entries.ofList_eq_self hdistinct]

end QueryAudit.Connection
