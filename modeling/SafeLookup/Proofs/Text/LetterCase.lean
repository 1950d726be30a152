import Mathlib.Data.List.Chain
import SafeLookup.Text.Basic

/-!
# Texts in One Letter Case

A text is put into one case to be compared with a word, and more than the case of its ASCII letters
may change on the way. This module compares what comes of it with what a reader expects: that the
two have the same letters, the case of ASCII letters aside (`SameLetters`).

* In lower case a text is a word of small ASCII letters without a `k` exactly if it has the same
  letters (`lower_eq_iff`). Only the Kelvin sign would spoil it.
* In upper case a text is a word of capitals exactly if it has the same letters once its dotless i
  and its long s count as an i and an s (`upper_eq_iff`). The other characters that come apart into
  capitals would be seen in the word as one of a few pairs (`ligatures`).

## Proof outline

The case of ASCII letters is read off the table of ASCII (`forall_char`). Characters that are not in
the tables of other letters have the case of ASCII (`lowerChar_of_ne`, `upperChar_of_notMem`); those
that are in them are gone through one by one (`upperChar_cases`). The equivalences follow by
induction on the text.
-/

namespace SafeLookup.Text

/-- Two texts **have the same letters** if they differ in the case of ASCII letters at most. -/
def SameLetters (cs ds : List Char) : Prop := cs.map Char.toLower = ds.map Char.toLower

instance (cs ds : List Char) : Decidable (SameLetters cs ds) :=
  inferInstanceAs (Decidable (cs.map Char.toLower = ds.map Char.toLower))

theorem sameLetters_nil_iff {ds : List Char} : SameLetters [] ds ↔ ds = [] := by
  rw [SameLetters, List.map_nil, eq_comm, List.map_eq_nil_iff]

theorem sameLetters_cons_iff {c d : Char} {cs ds : List Char} :
    SameLetters (c :: cs) (d :: ds) ↔ c.toLower = d.toLower ∧ SameLetters cs ds := by
  rw [SameLetters, List.map_cons, List.map_cons, List.cons.injEq]
  rfl

/-- Texts with the same letters are empty together. -/
theorem SameLetters.eq_nil_iff {cs ds : List Char} (h : SameLetters cs ds) :
    cs = [] ↔ ds = [] := by
  rw [← List.map_eq_nil_iff (f := Char.toLower), h, List.map_eq_nil_iff]

/-! ### ASCII letters

The case of a letter is a matter of ASCII: there it is read off the table, and all other characters
stay as they are. -/

/-- A character outside ASCII is its own lower case. -/
theorem toLower_of_not_isAscii {c : Char} (h : c.isAscii = false) : c.toLower = c := by
  rw [Char.isAscii, decide_eq_false_iff_not] at h
  unfold Char.toLower
  split
  next hupper =>
    have hle : c.toNat ≤ 90 := UInt32.le_iff_toNat_le.mp hupper.2
    omega
  next => rfl

/-- A character outside ASCII is its own upper case. -/
theorem toUpper_of_not_isAscii {c : Char} (h : c.isAscii = false) : c.toUpper = c := by
  rw [Char.isAscii, decide_eq_false_iff_not] at h
  unfold Char.toUpper
  split
  next hlower =>
    have hle : c.toNat ≤ 122 := UInt32.le_iff_toNat_le.mp hlower.2
    omega
  next => rfl

/-- What holds throughout the table of ASCII, and of every character that is its own lower and upper
case, holds of all characters. -/
theorem forall_char {P : Char → Prop} (table : ∀ n < 128, P (Char.ofNat n))
    (outside : ∀ c : Char, c.isAscii = false → c.toLower = c → c.toUpper = c → P c) (c : Char) :
    P c := by
  cases h : c.isAscii with
  | true =>
      rw [Char.isAscii, decide_eq_true_iff] at h
      exact Char.ofNat_toNat c ▸ table c.toNat h
  | false => exact outside c h (toLower_of_not_isAscii h) (toUpper_of_not_isAscii h)

/-- Capitals are in ASCII. -/
theorem isAscii_of_isUpper {c : Char} (h : c.isUpper = true) : c.isAscii = true := by
  have hle : c.toNat ≤ 90 := UInt32.le_iff_toNat_le.mp (of_decide_eq_true h).2
  rw [Char.isAscii, decide_eq_true_iff]
  omega

/-- A character in lower case is in ASCII if it was there before. -/
theorem isAscii_toLower (c : Char) : c.toLower.isAscii = c.isAscii :=
  forall_char (by decide +kernel) (fun _ _ hlower _ => congrArg Char.isAscii hlower) c

/-- Lower case stays as it is in lower case. -/
theorem toLower_toLower (c : Char) : c.toLower.toLower = c.toLower :=
  forall_char (by decide +kernel) (fun _ _ hlower _ => congrArg Char.toLower hlower) c

/-- Upper case does not depend on the case before. -/
theorem toUpper_toLower (c : Char) : c.toLower.toUpper = c.toUpper :=
  forall_char (by decide +kernel) (fun _ _ hlower _ => congrArg Char.toUpper hlower) c

/-- Lower case does not depend on the case before. -/
theorem toLower_toUpper (c : Char) : c.toUpper.toLower = c.toLower :=
  forall_char (by decide +kernel) (fun _ _ _ hupper => congrArg Char.toLower hupper) c

/-- A capital is its own upper case. -/
theorem toUpper_of_isUpper {c : Char} (h : c.isUpper = true) : c.toUpper = c :=
  forall_char (P := fun c => c.isUpper = true → c.toUpper = c) (by decide +kernel)
    (fun _ _ _ hupper _ => hupper) c h

/-- No character but itself has a character outside ASCII for its lower case. -/
theorem toLower_eq_iff_of_not_isAscii {c d : Char} (h : d.isAscii = false) :
    c.toLower = d ↔ c = d := by
  constructor
  · intro heq
    have hc : c.isAscii = false := by rw [← isAscii_toLower, heq, h]
    rw [← heq, toLower_of_not_isAscii hc]
  · rintro rfl
    exact toLower_of_not_isAscii h

/-- A text with the letters of a text in ASCII is in ASCII. -/
theorem SameLetters.isAscii {cs ds : List Char} (h : SameLetters cs ds)
    (hds : ∀ d ∈ ds, d.isAscii = true) {c : Char} (hc : c ∈ cs) : c.isAscii = true := by
  have hmem : c.toLower ∈ ds.map Char.toLower := h ▸ List.mem_map_of_mem hc
  obtain ⟨d, hd, hsame⟩ := List.mem_map.mp hmem
  rw [← isAscii_toLower, ← hsame, isAscii_toLower]
  exact hds d hd

/-- Two characters have the same letter in lower case if they have it in upper case. -/
theorem toUpper_eq_iff_toLower_eq {c d : Char} (hd : d.isUpper = true) :
    c.toUpper = d ↔ c.toLower = d.toLower := by
  constructor
  · rintro rfl
    exact (toLower_toUpper c).symm
  · intro h
    rw [← toUpper_toLower, h, toUpper_toLower, toUpper_of_isUpper hd]

/-! ### Lower case -/

/-- The Kelvin sign is the one character outside ASCII with a small letter of ASCII. -/
theorem lowerChar_of_ne {c : Char} (h : c ≠ '\u212A') : lowerChar c = c.toLower := by
  unfold lowerChar
  split
  · exact absurd rfl h
  · rfl

/-- Lower case does not depend on the case of ASCII letters. -/
theorem lowerChar_toLower (c : Char) : lowerChar c.toLower = lowerChar c := by
  by_cases hkelvin : c = '\u212A'
  · subst hkelvin
    rfl
  · have hlower : c.toLower ≠ '\u212A' :=
      mt (toLower_eq_iff_of_not_isAscii rfl).mp hkelvin
    rw [lowerChar_of_ne hlower, lowerChar_of_ne hkelvin, toLower_toLower]

/-- Texts with the same letters are the same in lower case. -/
theorem SameLetters.lower_eq {cs ds : List Char} (h : SameLetters cs ds) :
    lower cs = lower ds := by
  have hlower : ∀ es : List Char, lower es = lower (es.map Char.toLower) := by
    intro es
    simp only [lower, List.map_map, Function.comp_def, lowerChar_toLower]
  rw [hlower cs, h, ← hlower ds]

/-- Words in small letters, none of which is a `k`. -/
def IsSmall (w : List Char) : Prop := ∀ d ∈ w, d.isAscii = true ∧ d.toLower = d ∧ d ≠ 'k'

/-- **The texts that are a word in lower case**: those with the letters of the word. -/
theorem lower_eq_iff {cs w : List Char} (hw : IsSmall w) : lower cs = w ↔ SameLetters cs w := by
  induction cs generalizing w with
  | nil => rw [sameLetters_nil_iff, lower, List.map_nil, eq_comm]
  | cons c rest ih =>
      cases w with
      | nil => simp [lower, SameLetters]
      | cons d w =>
          obtain ⟨⟨hascii, hsmall, hk⟩, hw⟩ := List.forall_mem_cons.mp hw
          have hhead : lowerChar c = d ↔ c.toLower = d.toLower := by
            by_cases hkelvin : c = '\u212A'
            · subst hkelvin
              have hne : Char.toLower '\u212A' ≠ d := by
                rintro rfl
                exact absurd hascii (by decide)
              rw [hsmall]
              exact ⟨fun h => absurd h.symm hk, fun h => absurd h hne⟩
            · rw [lowerChar_of_ne hkelvin, hsmall]
          rw [sameLetters_cons_iff, ← hhead, ← ih hw, lower, List.map_cons, List.cons.injEq]
          rfl

/-! ### Upper case -/

/-- The characters whose upper case is not that of ASCII. -/
def foldedChars : List Char := ['ı', 'ſ', 'ß', 'ﬀ', 'ﬁ', 'ﬂ', 'ﬃ', 'ﬄ', 'ﬅ', 'ﬆ']

/-- The dotless i and the long s, each with the letter whose upper case it shares, and all other
characters as they are. -/
def plainChar : Char → Char
  | 'ı' => 'i'
  | 'ſ' => 's'
  | c => c

/-- A text in which the dotless i and the long s are plain. -/
def plain (cs : List Char) : List Char := cs.map plainChar

/-- The pairs of capitals with which the upper case of one character begins. -/
def ligatures : List (Char × Char) := [('S', 'S'), ('F', 'F'), ('F', 'I'), ('F', 'L'), ('S', 'T')]

/-- A character is plain unless it is one of two. -/
theorem plainChar_of_ne {c : Char} (hi : c ≠ 'ı') (hs : c ≠ 'ſ') : plainChar c = c := by
  unfold plainChar
  split
  · exact absurd rfl hi
  · exact absurd rfl hs
  · rfl

/-- A text without the two characters is plain. -/
theorem plain_eq_self {cs : List Char} (hi : 'ı' ∉ cs) (hs : 'ſ' ∉ cs) : plain cs = cs := by
  refine (List.map_congr_left fun c hc => ?_).trans (List.map_id cs)
  refine plainChar_of_ne ?_ ?_
  · rintro rfl
    exact hi hc
  · rintro rfl
    exact hs hc

/-- All other characters have the upper case of ASCII. -/
theorem upperChar_of_notMem {c : Char} (h : c ∉ foldedChars) : upperChar c = [c.toUpper] := by
  unfold upperChar
  split
  iterate 10 exact absurd (by decide) h
  rfl

/-- Upper case does not depend on the case of ASCII letters. -/
theorem upperChar_toLower (c : Char) : upperChar c.toLower = upperChar c := by
  have houtside : ∀ d ∈ foldedChars, d.isAscii = false := by simp [foldedChars, Char.isAscii]
  by_cases hc : c ∈ foldedChars
  · rw [toLower_of_not_isAscii (houtside c hc)]
  · have hlower : c.toLower ∉ foldedChars := by
      intro hmem
      rw [← (toLower_eq_iff_of_not_isAscii (houtside _ hmem)).mp rfl] at hmem
      exact hc hmem
    rw [upperChar_of_notMem hlower, upperChar_of_notMem hc, toUpper_toLower]

/-- Texts with the same letters are the same in upper case. -/
theorem SameLetters.upper_eq {cs ds : List Char} (h : SameLetters cs ds) :
    upper cs = upper ds := by
  have hupper : ∀ es : List Char, upper es = upper (es.map Char.toLower) := by
    intro es
    simp only [upper, List.flatMap_map, upperChar_toLower]
  rw [hupper cs, h, ← hupper ds]

/-- **What becomes of a character in upper case**: the capital of the plain character, or a text
that begins with one of the pairs. In the second case the character is outside ASCII. -/
theorem upperChar_cases (c : Char) :
    upperChar c = [(plainChar c).toUpper] ∨
    (c.isAscii = false ∧ plainChar c = c ∧
      ∃ a b rest, upperChar c = a :: b :: rest ∧ (a, b) ∈ ligatures) := by
  by_cases hc : c ∈ foldedChars
  · simp only [foldedChars, List.mem_cons, List.not_mem_nil, or_false] at hc
    rcases hc with rfl | rfl | rfl | rfl | rfl | rfl | rfl | rfl | rfl | rfl
    iterate 2 exact Or.inl (by decide)
    all_goals exact Or.inr ⟨rfl, rfl, _, _, _, rfl, by decide⟩
  · have hi : c ≠ 'ı' := by
      rintro rfl
      exact hc (by decide)
    have hs : c ≠ 'ſ' := by
      rintro rfl
      exact hc (by decide)
    rw [upperChar_of_notMem hc, plainChar_of_ne hi hs]
    exact Or.inl rfl

/-- Words in capitals, in which none of the pairs occurs. -/
def IsCapital (w : List Char) : Prop :=
  (∀ d ∈ w, d.isUpper = true) ∧ w.IsChain fun a b => (a, b) ∉ ligatures

/-- The rest of a word in capitals. -/
theorem IsCapital.of_cons {d : Char} {w : List Char} (h : IsCapital (d :: w)) : IsCapital w :=
  ⟨(List.forall_mem_cons.mp h.1).2, h.2.of_cons⟩

/-- **The texts that are a word in upper case**: those that have the letters of the word when they
are plain. -/
theorem upper_eq_iff {cs w : List Char} (hw : IsCapital w) :
    upper cs = w ↔ SameLetters (plain cs) w := by
  induction cs generalizing w with
  | nil => rw [plain, List.map_nil, sameLetters_nil_iff, upper, List.flatMap_nil, eq_comm]
  | cons c rest ih =>
      rw [upper, List.flatMap_cons, ← upper, plain, List.map_cons, ← plain]
      rcases upperChar_cases c with hcapital | ⟨hascii, hplain, a, b, more, hpair, hmem⟩
      · rw [hcapital, List.singleton_append]
        cases w with
        | nil => simp [SameLetters]
        | cons d w =>
            have hd : d.isUpper = true := hw.1 d List.mem_cons_self
            rw [List.cons.injEq, sameLetters_cons_iff, toUpper_eq_iff_toLower_eq hd, ih hw.of_cons]
      · -- The word has no such pair, and it has no letter outside ASCII.
        rw [hpair, hplain]
        constructor
        · rintro rfl
          exact absurd hmem (List.isChain_cons_cons.mp hw.2).1
        · intro h
          cases w with
          | nil => cases h
          | cons d w =>
              have hd : d.isUpper = true := hw.1 d List.mem_cons_self
              have hsame : c.toLower = d.toLower := (sameLetters_cons_iff.mp h).1
              rw [← isAscii_toLower, hsame, isAscii_toLower, isAscii_of_isUpper hd] at hascii
              cases hascii

end SafeLookup.Text
