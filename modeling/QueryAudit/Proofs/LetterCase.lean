import QueryAudit.DataType
import QueryAudit.Proofs.Blanks

/-!
# Lower case for good

No character that lower case yields has another lower case, and none of them is a blank. The first
is read off the table: the image of a run meets no run. So a text in lower case stays as it is, and
so does a normalised type name, whatever characters the name had.
-/

namespace QueryAudit.Text

/-! ## The table -/

/-- The capitals of ASCII, the dotted capital I and the capital sigma: the characters whose lower
case is not taken from the table. -/
def specialRuns : List CaseRun :=
  [⟨0x41, 0x5A, 1, 32⟩, ⟨0x130, 0x130, 1, 0⟩, ⟨0x3A3, 0x3A3, 1, 32⟩]

/-- Each blank as a run of its own. -/
def blankRuns : List CaseRun :=
  blankCodes.map fun n => ⟨n, n, 1, 0⟩

/-- All runs of characters that have a lower case, and the blanks. -/
def unsettledRuns : List CaseRun :=
  lowerRuns ++ specialRuns ++ blankRuns

theorem mem_unsettledRuns_of_special {r : CaseRun} (hr : r ∈ specialRuns) : r ∈ unsettledRuns :=
  List.mem_append_left _ (List.mem_append_right _ hr)

/-- Whether the images of a run lie beyond another run, or at places between those of a run that
skips every second code point. -/
def CaseRun.passes (r other : CaseRun) : Bool :=
  Nat.blt other.last (r.image r.first) ||
    (other.stride == 2 && (r.stride == 2 || r.first == r.last) &&
      (r.image r.first + other.first) % 2 == 1)

/-- Whether the images of a run meet none of the runs, which begin one after another: the search
ends at the first that begins beyond all images. -/
def CaseRun.clears (r : CaseRun) : List CaseRun → Bool
  | [] => true
  | other :: rest => Nat.blt (r.image r.last) other.first || (r.passes other && r.clears rest)

/-- A run whose images are characters that no other run moves. -/
def CaseRun.settles (r : CaseRun) : Bool :=
  decide (0 ≤ r.first + r.shift) &&
    (decide (r.image r.last < 0xD800) ||
      decide (0xDFFF < r.image r.first) && decide (r.image r.last < 0x110000)) &&
    (r.clears lowerRuns && r.clears specialRuns && r.clears blankRuns)

theorem lowerRuns_settle : lowerRuns.all CaseRun.settles = true := by
  decide +kernel

/-- The runs begin one after another. -/
def Ascending (runs : List CaseRun) : Prop :=
  (runs.map CaseRun.first).IsChain (· < ·)

theorem ascending_lowerRuns : Ascending lowerRuns := by
  unfold Ascending
  decide +kernel

theorem ascending_specialRuns : Ascending specialRuns := by
  unfold Ascending
  decide

theorem ascending_blankRuns : Ascending blankRuns := by
  unfold Ascending
  decide

/-- What the search passes or does not come to lies apart from the images. -/
theorem CaseRun.apart_of_clears {r other : CaseRun} {runs : List CaseRun}
    (hruns : Ascending runs) (h : r.clears runs = true) (hother : other ∈ runs) :
    r.image r.last < other.first ∨ r.passes other = true := by
  have horder : (runs.map CaseRun.first).Pairwise (· < ·) := List.IsChain.pairwise hruns
  clear hruns
  rw [List.pairwise_map] at horder
  induction runs with
  | nil => exact absurd hother List.not_mem_nil
  | cons run rest ih =>
    obtain ⟨hlater, hrest⟩ := List.pairwise_cons.mp horder
    simp only [clears, Bool.or_eq_true, Bool.and_eq_true, Nat.blt_eq] at h
    rcases h with hend | ⟨hpasses, hclears⟩
    · left
      rcases List.mem_cons.mp hother with rfl | hother
      · exact hend
      · exact Nat.lt_trans hend (hlater other hother)
    · rcases List.mem_cons.mp hother with rfl | hother
      · exact Or.inr hpasses
      · exact ih hclears hother hrest

/-- The image of a code point of a run is in no run that lies apart from the images. -/
theorem CaseRun.covers_image_eq_false {r other : CaseRun} {n : Nat} (hn : r.covers n = true)
    (hstart : 0 ≤ r.first + r.shift)
    (h : r.image r.last < other.first ∨ r.passes other = true) :
    other.covers (r.image n) = false := by
  simp only [covers, Bool.and_eq_true, decide_eq_true_eq, beq_iff_eq] at hn
  simp only [passes, Bool.or_eq_true, Bool.and_eq_true, Nat.blt_eq, beq_iff_eq] at h
  simp only [covers, Bool.and_eq_false_iff, decide_eq_false_iff_not, beq_eq_false_iff_ne]
  unfold image at h ⊢
  rcases h with h | h | ⟨⟨hother, hr | hr⟩, hodd⟩
  · omega
  · omega
  · rw [hr] at hn
    rw [hother]
    omega
  · rw [hother]
    omega

/-- Whether a character has no other lower case and is no blank. -/
def isSettled (c : Char) : Bool :=
  unsettledRuns.all fun r => !r.covers c.toNat

theorem isSettled_image {r : CaseRun} (hr : r ∈ lowerRuns) {n : Nat} (hn : r.covers n = true) :
    isSettled (Char.ofNat (r.image n)) = true := by
  have hsettles := List.all_eq_true.mp lowerRuns_settle r hr
  simp only [CaseRun.settles, Bool.and_eq_true, Bool.or_eq_true, decide_eq_true_eq] at hsettles
  obtain ⟨⟨hstart, hvalid⟩, ⟨hlower, hspecial⟩, hblank⟩ := hsettles
  have hbounds : r.first ≤ n ∧ n ≤ r.last := by
    simp only [CaseRun.covers, Bool.and_eq_true, decide_eq_true_eq] at hn
    exact hn.1
  have hchar : (r.image n).isValidChar := by
    simp only [CaseRun.image] at hvalid
    rw [Nat.isValidChar, CaseRun.image]
    omega
  have hapart : ∀ other ∈ unsettledRuns,
      r.image r.last < other.first ∨ r.passes other = true := by
    intro other hother
    simp only [unsettledRuns, List.mem_append] at hother
    rcases hother with (hother | hother) | hother
    · exact CaseRun.apart_of_clears ascending_lowerRuns hlower hother
    · exact CaseRun.apart_of_clears ascending_specialRuns hspecial hother
    · exact CaseRun.apart_of_clears ascending_blankRuns hblank hother
  rw [isSettled, List.all_eq_true]
  intro other hother
  rw [toNat_ofNat_of_isValidChar hchar,
    CaseRun.covers_image_eq_false hn hstart (hapart other hother)]
  rfl

/-! ## Characters -/

/-- A blank has no other lower case. -/
theorem lowerChar_of_isBlank {c : Char} (h : isBlank c = true) : lowerChar c = [c] := by
  have hall : ∀ n ∈ blankCodes, lowerChar (Char.ofNat n) = [Char.ofNat n] := by decide
  have hc := hall c.toNat (toNat_mem_blankCodes h)
  rwa [Char.ofNat_toNat] at hc

theorem covers_eq_false_of_isSettled {c : Char} (h : isSettled c = true) {r : CaseRun}
    (hr : r ∈ unsettledRuns) : r.covers c.toNat = false := by
  simpa using List.all_eq_true.mp h r hr

/-- A settled character is none that makes up a run of its own. -/
theorem toNat_ne_of_isSettled {c : Char} (h : isSettled c = true) {n : Nat} {shift : Int}
    (hr : ⟨n, n, 1, shift⟩ ∈ unsettledRuns) : c.toNat ≠ n := by
  rintro rfl
  have hrun := covers_eq_false_of_isSettled h hr
  simp [CaseRun.covers] at hrun

theorem lowerChar_of_isSettled {c : Char} (h : isSettled c = true) : lowerChar c = [c] := by
  rw [lowerChar]
  split
  · rename_i hascii
    have hcapital := covers_eq_false_of_isSettled h
      (mem_unsettledRuns_of_special (r := ⟨0x41, 0x5A, 1, 32⟩) (by decide))
    have hall : ∀ n < 0x80, CaseRun.covers ⟨0x41, 0x5A, 1, 32⟩ n = false →
        (Char.ofNat n).toLower = Char.ofNat n := by
      decide
    have hc := hall c.toNat hascii hcapital
    rw [Char.ofNat_toNat] at hc
    rw [hc]
  · have hdotted := toNat_ne_of_isSettled h
      (mem_unsettledRuns_of_special (r := ⟨0x130, 0x130, 1, 0⟩) (by decide))
    have hmoved : lowerRuns.find? (·.covers c.toNat) = none := by
      rw [List.find?_eq_none]
      intro r hr
      simp [covers_eq_false_of_isSettled h (List.mem_append_left _ (List.mem_append_left _ hr))]
    rw [if_neg hdotted, shiftBy, hmoved]

theorem eq_of_covers_single {n m : Nat} {shift : Int}
    (h : CaseRun.covers ⟨n, n, 1, shift⟩ m = true) : m = n := by
  simp only [CaseRun.covers, Bool.and_eq_true, decide_eq_true_eq] at h
  omega

/-- What neither moves nor has a case of its own nor is a blank stays as it is. -/
theorem isSettled_of_unmoved {c : Char}
    (hcapital : CaseRun.covers ⟨0x41, 0x5A, 1, 32⟩ c.toNat = false) (hdotted : c.toNat ≠ 0x130)
    (hc : isBlank c = false) (hmoved : ∀ r ∈ lowerRuns, r.covers c.toNat = false) :
    isSettled c = true := by
  rw [isSettled, List.all_eq_true]
  intro r hr
  rw [Bool.not_eq_true', Bool.eq_false_iff]
  intro hcovers
  simp only [unsettledRuns, specialRuns, blankRuns, List.mem_append, List.mem_cons,
    List.not_mem_nil, or_false, List.mem_map] at hr
  rcases hr with (hr | rfl | rfl | rfl) | ⟨n, hn, rfl⟩
  · exact absurd hcovers (by simp [hmoved r hr])
  · exact absurd hcovers (by simp [hcapital])
  · exact hdotted (eq_of_covers_single hcovers)
  · -- The table moves the sigma too, to the form inside words.
    have hsigma : lowerRuns.any (·.covers 0x3A3) = true := by decide
    obtain ⟨r, hr, hrun⟩ := List.any_eq_true.mp hsigma
    rw [← eq_of_covers_single hcovers, hmoved r hr] at hrun
    cases hrun
  · have hall : ∀ n ∈ blankCodes, isBlank (Char.ofNat n) = true := by decide
    have hblank := hall n hn
    rw [← eq_of_covers_single hcovers, Char.ofNat_toNat, hc] at hblank
    cases hblank

/-- The table says nothing about ASCII. -/
theorem covers_eq_false_of_ascii {n : Nat} (hn : n < 0x80) :
    ∀ r ∈ lowerRuns, r.covers n = false := by
  have hall : lowerRuns.all (fun r => Nat.ble 0x80 r.first) = true := by decide
  intro r hr
  have hfirst : 0x80 ≤ r.first := Nat.le_of_ble_eq_true (List.all_eq_true.mp hall r hr)
  simp only [CaseRun.covers, Bool.and_eq_false_iff, decide_eq_false_iff_not]
  omega

/-- What lower case yields for a character that is not a blank has no other lower case. -/
theorem isSettled_of_mem_lowerChar {c d : Char} (hc : isBlank c = false) (hd : d ∈ lowerChar c) :
    isSettled d = true := by
  rw [lowerChar] at hd
  split at hd
  · rename_i hascii
    have hall : ∀ n < 0x80, isBlank (Char.ofNat n) = false →
        (Char.ofNat n).toLower.toNat < 0x80 ∧ isBlank (Char.ofNat n).toLower = false ∧
          CaseRun.covers ⟨0x41, 0x5A, 1, 32⟩ (Char.ofNat n).toLower.toNat = false := by
      decide
    have hlower := hall c.toNat hascii
    rw [Char.ofNat_toNat, ← List.mem_singleton.mp hd] at hlower
    obtain ⟨hsmall, hblank, hcapital⟩ := hlower hc
    exact isSettled_of_unmoved hcapital (by omega) hblank (covers_eq_false_of_ascii hsmall)
  split at hd
  · have hall : ['i', Char.ofNat 0x307].all isSettled = true := by decide
    exact List.all_eq_true.mp hall d hd
  · rename_i hascii hdotted
    rw [List.mem_singleton.mp hd, shiftBy]
    cases hfound : lowerRuns.find? (·.covers c.toNat) with
    | none =>
      refine isSettled_of_unmoved ?_ hdotted hc fun r hr => ?_
      · simp only [CaseRun.covers, Bool.and_eq_false_iff, decide_eq_false_iff_not]
        omega
      · exact Bool.eq_false_iff.mpr (List.find?_eq_none.mp hfound r hr)
    | some r =>
      have hcovers : r.covers c.toNat = true := by simpa using List.find?_some hfound
      exact isSettled_image (List.mem_of_find?_eq_some hfound) hcovers

theorem lowerChar_ne_nil (c : Char) : lowerChar c ≠ [] := by
  rw [lowerChar]
  split
  · exact List.cons_ne_nil _ _
  · split <;> exact List.cons_ne_nil _ _

/-! ## Texts -/

/-- The characters that lower case yields at a place: the blank itself where one stands, and settled
characters anywhere else. -/
theorem exists_lowerAfter_cons (before : List Char) (c : Char) (rest : List Char) :
    ∃ image, lowerAfter before (c :: rest) = image ++ lowerAfter (c :: before) rest ∧
      (isBlank c = true → image = [c]) ∧
      (isBlank c = false → image ≠ [] ∧ ∀ d ∈ image, isSettled d = true) := by
  refine ⟨_, rfl, ?_, ?_⟩
  · intro hc
    rw [if_neg, lowerChar_of_isBlank hc]
    intro hsigma
    have hcode := toNat_mem_blankCodes hc
    rw [hsigma] at hcode
    revert hcode
    decide
  · intro hc
    split
    · refine ⟨List.cons_ne_nil _ _, fun d hd => ?_⟩
      rw [List.mem_singleton.mp hd]
      split <;> decide
    · exact ⟨lowerChar_ne_nil c, fun d hd => isSettled_of_mem_lowerChar hc hd⟩

/-- A settled character is no blank. -/
theorem isBlank_eq_false_of_isSettled {c : Char} (h : isSettled c = true) : isBlank c = false := by
  rw [Bool.eq_false_iff]
  intro hblank
  have hrun := List.mem_map_of_mem (f := fun n => (⟨n, n, 1, 0⟩ : CaseRun))
    (toNat_mem_blankCodes hblank)
  exact toNat_ne_of_isSettled h (List.mem_append_right _ hrun) rfl

theorem settled_or_blank_of_mem_lowerAfter {before text : List Char} {d : Char}
    (hd : d ∈ lowerAfter before text) : isSettled d = true ∨ isBlank d = true := by
  induction text generalizing before with
  | nil => exact absurd hd List.not_mem_nil
  | cons c rest ih =>
    obtain ⟨image, himage, hblank, hword⟩ := exists_lowerAfter_cons before c rest
    rw [himage, List.mem_append] at hd
    rcases hd with hd | hd
    · cases hc : isBlank c with
      | true =>
        rw [hblank hc, List.mem_singleton] at hd
        exact Or.inr (hd ▸ hc)
      | false => exact Or.inl ((hword hc).2 d hd)
    · exact ih hd

/-- Settled characters and blanks are their own lower case wherever they stand. -/
theorem lowerAfter_of_settled {text : List Char}
    (h : ∀ c ∈ text, isSettled c = true ∨ isBlank c = true) (before : List Char) :
    lowerAfter before text = text := by
  induction text generalizing before with
  | nil => rfl
  | cons c rest ih =>
    obtain ⟨hc, hrest⟩ := List.forall_mem_cons.mp h
    rcases hc with hsettled | hblank
    · have hsigma := toNat_ne_of_isSettled hsettled
        (mem_unsettledRuns_of_special (r := ⟨0x3A3, 0x3A3, 1, 32⟩) (by decide))
      rw [lowerAfter, if_neg hsigma, lowerChar_of_isSettled hsettled, ih hrest,
        List.singleton_append]
    · obtain ⟨image, himage, hself, -⟩ := exists_lowerAfter_cons before c rest
      rw [himage, hself hblank, ih hrest, List.singleton_append]

/-- Lower case stays as it is. -/
theorem lower_lower (text : List Char) : lower (lower text) = lower text :=
  lowerAfter_of_settled (fun _ hd => settled_or_blank_of_mem_lowerAfter hd) []

/-- Lower case keeps a text tidy. -/
theorem Tidy.lowerAfter {text : List Char} (h : Tidy text) (before : List Char) :
    Tidy (lowerAfter before text) := by
  have hword {image rest : List Char}
      (himage : image ≠ [] ∧ ∀ d ∈ image, isSettled d = true)
      (h : ∀ d, isBlank d = false → Tidy (d :: rest)) : Tidy (image ++ rest) :=
    tidy_append himage.1 (fun d hd => isBlank_eq_false_of_isSettled (himage.2 d hd)) h
  induction h generalizing before with
  | @single c hc =>
    obtain ⟨image, heq, -, himage⟩ := exists_lowerAfter_cons before c []
    rw [heq]
    exact hword (himage hc) fun _ => .single
  | @cons c rest hc hrest ih =>
    obtain ⟨image, heq, -, himage⟩ := exists_lowerAfter_cons before c rest
    rw [heq]
    exact hword (himage hc) fun _ hd => .cons hd (ih _)
  | @space c rest hc hrest ih =>
    obtain ⟨image, heq, -, himage⟩ := exists_lowerAfter_cons before c (' ' :: rest)
    obtain ⟨space, hspace, hself, -⟩ := exists_lowerAfter_cons (c :: before) ' ' rest
    rw [heq, hspace, hself (by decide), List.singleton_append]
    exact hword (himage hc) fun _ hd => .space hd (ih _)

end QueryAudit.Text

namespace QueryAudit

/-- A normalised type name is normalised already. -/
theorem normalizeTypeName_normalizeTypeName (name : String) :
    normalizeTypeName (normalizeTypeName name) = normalizeTypeName name := by
  rw [normalizeTypeName, normalizeTypeName, String.toList_ofList]
  rcases Text.tidy_collapseBlanks_trim name.toList with hempty | htidy
  · rw [hempty]
    rfl
  · have hlower : Text.Tidy (Text.lower (Text.collapseBlanks (Text.trim name.toList))) :=
      htidy.lowerAfter []
    rw [hlower.trim_eq, hlower.collapseBlanks_eq, Text.lower_lower]

end QueryAudit
