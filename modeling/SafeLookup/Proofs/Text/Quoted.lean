import Mathlib.Tactic.IntervalCases
import SafeLookup.Text.Quoted

/-!
# Quoted Text Determines the Text

The quote that is chosen depends on the text, and inside quoted text characters stand as they are,
behind a backslash, or as a code of one of three widths. Still no two texts are quoted alike, and
this module says why.

The first character is the quote, so texts that are quoted alike have the same one. With the quote
fixed, what stands for a character ends by itself: a backslash is always followed by a letter that
tells how many digits there are (`escapeWidth`), and letter and digits tell the character
(`escaped`), for a code is read back from its digits (`readHex_hexDigits`). So the codes of
characters are prefix-free (`prefixFree_quoteChar`), and texts are read back character by character
(`quote_inj`).

Quoted text is printable, whatever the text is (`isPrintable_of_mem_quote`), and a printable
character is no control and separates no lines (`not_isControl_of_isPrintable`).
-/

namespace SafeLookup.Text

/-! ### Hexadecimal codes -/

/-- The value of a hexadecimal digit. -/
def hexValue (c : Char) : ℕ := if c.isDigit then c.toNat - 48 else c.toNat - 87

/-- The number that hexadecimal digits denote. -/
def readHex (cs : List Char) : ℕ := cs.foldl (fun n c => 16 * n + hexValue c) 0

/-- One more digit. -/
theorem readHex_append_singleton (cs : List Char) (c : Char) :
    readHex (cs ++ [c]) = 16 * readHex cs + hexValue c := by
  simp [readHex]

/-- A digit below sixteen has its value, and is a plain character. -/
theorem digitChar_of_lt {d : ℕ} (h : d < 16) :
    hexValue d.digitChar = d ∧ isPlain d.digitChar = true := by
  interval_cases d <;> decide

/-- **A number is read back from its digits.** Induction the way the digits are written, last digit
last. -/
theorem readHex_toDigits (n : ℕ) : readHex (Nat.toDigits 16 n) = n := by
  induction n using Nat.strongRecOn with
  | ind n ih =>
      by_cases hlt : n < 16
      · rw [Nat.toDigits_of_lt_base hlt, ← List.nil_append [_], readHex_append_singleton,
          (digitChar_of_lt hlt).1]
        exact Nat.zero_add n
      · have hrest : n / 16 < n := by omega
        rw [Nat.toDigits_of_base_le (by omega) (by omega), readHex_append_singleton, ih _ hrest,
          (digitChar_of_lt (Nat.mod_lt n (by omega))).1, Nat.div_add_mod]

/-- Zeros in front do not count. -/
theorem readHex_replicate_append (k : ℕ) (cs : List Char) :
    readHex (List.replicate k '0' ++ cs) = readHex cs := by
  induction k with
  | zero => rfl
  | succ k ih =>
      rw [List.replicate_succ, List.cons_append]
      exact ih

/-- **A code is read back**, however wide it is written. -/
theorem readHex_hexDigits (width n : ℕ) : readHex (hexDigits width n) = n := by
  rw [hexDigits, readHex_replicate_append, readHex_toDigits]

/-- A code that fits its width has that many digits. -/
theorem length_hexDigits {width n : ℕ} (hpos : 0 < width) (h : n < 16 ^ width) :
    (hexDigits width n).length = width := by
  have hle : (Nat.toDigits 16 n).length ≤ width :=
    (Nat.length_toDigits_le_iff (by omega) hpos).mpr h
  rw [hexDigits, List.length_append, List.length_replicate]
  omega

/-- The digits of a number are plain characters. -/
theorem isPlain_of_mem_toDigits {n : ℕ} {c : Char} (h : c ∈ Nat.toDigits 16 n) :
    isPlain c = true := by
  induction n using Nat.strongRecOn with
  | ind n ih =>
      by_cases hlt : n < 16
      · rw [Nat.toDigits_of_lt_base hlt, List.mem_singleton] at h
        exact h ▸ (digitChar_of_lt hlt).2
      · rw [Nat.toDigits_of_base_le (by omega) (by omega), List.mem_append,
          List.mem_singleton] at h
        rcases h with h | rfl
        · exact ih (n / 16) (by omega) h
        · exact (digitChar_of_lt (Nat.mod_lt n (by omega))).2

/-- A code is made of plain characters. -/
theorem isPlain_of_mem_hexDigits {width n : ℕ} {c : Char} (h : c ∈ hexDigits width n) :
    isPlain c = true := by
  rcases List.mem_append.mp h with h | h
  · obtain rfl := (List.mem_replicate.mp h).2
    rfl
  · exact isPlain_of_mem_toDigits h

/-! ### Prefix-free codes -/

/-- **No code begins another one**: a code is split off the front of a text in one way. -/
def PrefixFree {α : Type} (code : α → List Char) : Prop :=
  ∀ a b x y, code a ++ x = code b ++ y → a = b ∧ x = y

/-- Texts that are put together from prefix-free codes are told apart. -/
theorem PrefixFree.flatMap_inj {α : Type} {code : α → List Char} (hfree : PrefixFree code)
    (hne : ∀ a, code a ≠ []) {as bs : List α} (h : as.flatMap code = bs.flatMap code) :
    as = bs := by
  induction as generalizing bs with
  | nil =>
      cases bs with
      | nil => rfl
      | cons b bs =>
          rw [List.flatMap_cons] at h
          exact absurd h.symm (List.append_ne_nil_of_left_ne_nil (hne b) _)
  | cons a as ih =>
      cases bs with
      | nil =>
          rw [List.flatMap_cons] at h
          exact absurd h (List.append_ne_nil_of_left_ne_nil (hne a) _)
      | cons b bs =>
          rw [List.flatMap_cons, List.flatMap_cons] at h
          obtain ⟨rfl, hrest⟩ := hfree a b _ _ h
          rw [ih hrest]

/-- What stands in front of a separator, and what stands behind it, if it is the first one. -/
theorem append_cons_inj {c : Char} {x y u v : List Char} (hx : c ∉ x) (hu : c ∉ u)
    (h : x ++ c :: y = u ++ c :: v) : x = u ∧ y = v := by
  rcases List.append_eq_append_iff.mp h with ⟨w, rfl, hw⟩ | ⟨w, rfl, hw⟩
  · cases w with
    | nil => exact ⟨(List.append_nil x).symm, (List.cons.inj hw).2⟩
    | cons d w =>
        obtain ⟨rfl, -⟩ := List.cons.inj hw
        exact absurd (List.mem_append_right x List.mem_cons_self) hu
  · cases w with
    | nil => exact ⟨List.append_nil u, (List.cons.inj hw).2.symm⟩
    | cons d w =>
        obtain ⟨rfl, -⟩ := List.cons.inj hw
        exact absurd (List.mem_append_right u List.mem_cons_self) hx

/-! ### One character -/

/-- How many digits follow the letter behind a backslash. -/
def escapeWidth : Char → ℕ
  | 'x' => 2
  | 'u' => 4
  | 'U' => 8
  | _ => 0

/-- The character that a letter behind a backslash stands for, with its digits. -/
def escaped (letter : Char) (digits : List Char) : Char :=
  match letter with
  | 't' => '\t'
  | 'n' => '\n'
  | 'r' => '\r'
  | 'x' | 'u' | 'U' => Char.ofNat (readHex digits)
  | c => c

variable {shown : Char → Bool} {quote : Char}

/-- The code of a character behind a backslash has a letter that tells its width, and the character
is read back. -/
theorem exists_codeEscape (c : Char) :
    ∃ letter digits, codeEscape c.toNat = '\\' :: letter :: digits ∧
      digits.length = escapeWidth letter ∧ escaped letter digits = c := by
  have hread : ∀ width, Char.ofNat (readHex (hexDigits width c.toNat)) = c := by
    intro width
    rw [readHex_hexDigits, Char.ofNat_toNat]
  rw [codeEscape]
  split
  next hsmall => exact ⟨'x', _, rfl, length_hexDigits (by decide) (by omega), hread 2⟩
  next =>
    split
    next hmedium => exact ⟨'u', _, rfl, length_hexDigits (by decide) (by omega), hread 4⟩
    next =>
      have hlarge : c.toNat < 16 ^ 8 := by
        have hword : c.val.toNat < 2 ^ 32 := c.val.toNat_lt
        exact hword
      exact ⟨'U', _, rfl, length_hexDigits (by decide) hlarge, hread 8⟩

/-- **What stands for a character**: the character itself, which is no backslash then, or a
backslash with a letter and as many digits as the letter tells. -/
theorem quoteChar_cases (hquote : quote = '\'' ∨ quote = '"') (c : Char) :
    (quoteChar shown quote c = [c] ∧ c ≠ '\\') ∨
      ∃ letter digits, quoteChar shown quote c = '\\' :: letter :: digits ∧
        digits.length = escapeWidth letter ∧ escaped letter digits = c := by
  rw [quoteChar]
  split
  next hself =>
    refine Or.inr ⟨c, [], rfl, ?_⟩
    rcases hself with rfl | rfl
    · rcases hquote with rfl | rfl <;> exact ⟨rfl, rfl⟩
    · exact ⟨rfl, rfl⟩
  next hself =>
    have hbackslash : c ≠ '\\' := fun hc => hself (Or.inr hc)
    split
    next htab => exact Or.inr ⟨'t', [], rfl, rfl, htab.symm⟩
    next =>
      split
      next hfeed => exact Or.inr ⟨'n', [], rfl, rfl, hfeed.symm⟩
      next =>
        split
        next hreturn => exact Or.inr ⟨'r', [], rfl, rfl, hreturn.symm⟩
        next =>
          split
          · exact Or.inl ⟨rfl, hbackslash⟩
          · exact Or.inr (exists_codeEscape c)

/-- Something stands for every character. -/
theorem quoteChar_ne_nil (hquote : quote = '\'' ∨ quote = '"') (c : Char) :
    quoteChar shown quote c ≠ [] := by
  rcases quoteChar_cases hquote c with ⟨h, -⟩ | ⟨letter, digits, h, -⟩
  · rw [h]
    exact List.cons_ne_nil _ _
  · rw [h]
    exact List.cons_ne_nil _ _

/-- **What stands for a character does not begin what stands for another one.** -/
theorem prefixFree_quoteChar (hquote : quote = '\'' ∨ quote = '"') :
    PrefixFree (quoteChar shown quote) := by
  intro c d x y h
  rcases quoteChar_cases hquote c with ⟨hc, hcne⟩ | ⟨letter, digits, hc, hwidth, hread⟩
  · rcases quoteChar_cases hquote d with ⟨hd, -⟩ | ⟨letter', digits', hd, -⟩
    · rw [hc, hd] at h
      exact List.cons.inj h
    · rw [hc, hd] at h
      exact absurd (List.cons.inj h).1 hcne
  · rcases quoteChar_cases hquote d with ⟨hd, hdne⟩ | ⟨letter', digits', hd, hwidth', hread'⟩
    · rw [hc, hd] at h
      exact absurd (List.cons.inj h).1.symm hdne
    · rw [hc, hd] at h
      obtain ⟨rfl, hrest⟩ := List.cons.inj (List.cons.inj h).2
      obtain ⟨rfl, rfl⟩ := List.append_inj hrest (hwidth.trans hwidth'.symm)
      exact ⟨hread.symm.trans hread', rfl⟩

/-! ### Quoted text -/

/-- The quote around a text is a single or a double one. -/
theorem quoteAround_cases (cs : List Char) : quoteAround cs = '\'' ∨ quoteAround cs = '"' := by
  rw [quoteAround, quoteFor]
  split
  · exact Or.inr rfl
  · exact Or.inl rfl

/-- **Texts that are quoted alike are the same**, whatever characters are shown. -/
theorem quoteBy_inj {cs ds : List Char} (h : quoteBy shown cs = quoteBy shown ds) : cs = ds := by
  rw [quoteBy, quoteBy, List.cons_append, List.cons_append, List.cons.injEq] at h
  obtain ⟨hquote, hrest⟩ := h
  rw [← hquote] at hrest
  have hbody := List.append_cancel_right hrest
  exact (prefixFree_quoteChar (quoteAround_cases cs)).flatMap_inj
    (quoteChar_ne_nil (quoteAround_cases cs)) hbody

/-- Strings that are quoted alike are the same. -/
theorem quote_inj {s t : String} (h : Text.quote s = Text.quote t) : s = t := by
  rw [Text.quote, Text.quote, String.ofList_inj] at h
  exact String.toList_inj.mp (quoteBy_inj h)

/-- Quoted text begins with a quote. -/
theorem head?_quote (s : String) :
    (Text.quote s).toList.head? = some '\'' ∨ (Text.quote s).toList.head? = some '"' := by
  rw [Text.quote, String.toList_ofList, quoteChars, quoteBy, List.cons_append, List.head?_cons]
  exact (quoteAround_cases s.toList).imp (congrArg some) (congrArg some)

/-! ### Printable characters -/

/-- The plain characters of ASCII are printable. -/
theorem isPrintable_of_isPlain {c : Char} (h : isPlain c = true) : isPrintable c = true := by
  rw [isPlain, Bool.and_eq_true, decide_eq_true_iff, decide_eq_true_iff] at h
  rw [isPrintable, if_pos h.2, decide_eq_true_iff]
  exact h.1

/-- The decimal digits are plain characters. -/
theorem isPlain_of_isDigit {c : Char} (h : c.isDigit = true) : isPlain c = true := by
  obtain ⟨hlow, hhigh⟩ := Char.isDigit_iff_toNat.mp h
  have hlow' : 48 ≤ c.toNat := hlow
  have hhigh' : c.toNat ≤ 57 := hhigh
  rw [isPlain, Bool.and_eq_true, decide_eq_true_iff, decide_eq_true_iff]
  omega

/-- The code of a character behind a backslash is made of plain characters. -/
theorem isPlain_of_mem_codeEscape {n : ℕ} {d : Char} (h : d ∈ codeEscape n) :
    isPlain d = true := by
  have hcode : ∀ {letter : Char} {width : ℕ}, isPlain letter = true →
      d ∈ '\\' :: letter :: hexDigits width n → isPlain d = true := by
    intro letter width hletter hd
    rcases List.mem_cons.mp hd with rfl | hd
    · rfl
    · rcases List.mem_cons.mp hd with rfl | hd
      · exact hletter
      · exact isPlain_of_mem_hexDigits hd
  rw [codeEscape] at h
  split at h
  next => exact hcode rfl h
  next =>
    split at h
    next => exact hcode rfl h
    next => exact hcode rfl h

/-- What stands for a character is plain, unless it is the character itself, which is shown then. -/
theorem shown_or_isPlain_of_mem_quoteChar (hquote : isPlain quote = true) {c d : Char}
    (h : d ∈ quoteChar shown quote c) : shown d = true ∨ isPlain d = true := by
  have hself : c = quote ∨ c = '\\' → isPlain c = true := by
    rintro (rfl | rfl)
    · exact hquote
    · rfl
  have hpair : ∀ {e : Char}, isPlain e = true → d ∈ ['\\', e] → isPlain d = true := by
    intro e he hd
    rcases List.mem_cons.mp hd with rfl | hd
    · rfl
    · rw [List.mem_singleton.mp hd]
      exact he
  rw [quoteChar] at h
  split at h
  next hc => exact Or.inr (hpair (hself hc) h)
  next =>
    split at h
    next => exact Or.inr (hpair rfl h)
    next =>
      split at h
      next => exact Or.inr (hpair rfl h)
      next =>
        split at h
        next => exact Or.inr (hpair rfl h)
        next =>
          split at h
          next hshown =>
            obtain rfl := List.mem_singleton.mp h
            exact Or.inl hshown
          next => exact Or.inr (isPlain_of_mem_codeEscape h)

/-- The quote around a text is a plain character. -/
theorem isPlain_quoteAround (cs : List Char) : isPlain (quoteAround cs) = true := by
  rcases quoteAround_cases cs with h | h
  · rw [h]
    rfl
  · rw [h]
    rfl

/-- **Quoted text is printable**, whatever the text is. -/
theorem isPrintable_of_mem_quote {s : String} {d : Char} (h : d ∈ (Text.quote s).toList) :
    isPrintable d = true := by
  have hquote := isPlain_quoteAround s.toList
  rw [Text.quote, String.toList_ofList, quoteChars, quoteBy] at h
  rcases List.mem_append.mp h with h | h
  · rcases List.mem_cons.mp h with rfl | h
    · exact isPrintable_of_isPlain hquote
    · obtain ⟨c, -, hd⟩ := List.mem_flatMap.mp h
      rcases shown_or_isPlain_of_mem_quoteChar hquote hd with hshown | hplain
      · exact hshown
      · exact isPrintable_of_isPlain hplain
  · rw [List.mem_singleton.mp h]
    exact isPrintable_of_isPlain hquote

/-- **The controls**: the characters below the space, the delete character and those up to the
no-break space. -/
def IsControl (c : Char) : Prop := c.toNat < 0x20 ∨ 0x7F ≤ c.toNat ∧ c.toNat < 0xA0

instance (c : Char) : Decidable (IsControl c) :=
  inferInstanceAs (Decidable (c.toNat < 0x20 ∨ 0x7F ≤ c.toNat ∧ c.toNat < 0xA0))

/-- **A printable character is no control, and it separates no lines and no paragraphs.** -/
theorem not_isControl_of_isPrintable {c : Char} (h : isPrintable c = true) :
    ¬IsControl c ∧ c ≠ '\u2028' ∧ c ≠ '\u2029' := by
  refine ⟨?_, ?_, ?_⟩
  · rw [isPrintable] at h
    rw [IsControl]
    split at h
    next hsmall =>
      rw [decide_eq_true_iff] at h
      omega
    next hsmall =>
      split at h
      next => cases h
      next hlarge => omega
  · rintro rfl
    exact absurd h (by decide +kernel)
  · rintro rfl
    exact absurd h (by decide +kernel)

end SafeLookup.Text
