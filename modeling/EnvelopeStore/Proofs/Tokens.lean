import EnvelopeStore.Json.Reader
import EnvelopeStore.Json.Writer
import EnvelopeStore.Proofs.Utf8

/-!
# Strings and numbers of documents

What is written for a string or an integer is read back, whatever may follow it in a document. In a
string, a high surrogate directly followed by a low one comes back as the character that they
encode.
-/

namespace EnvelopeStore.Proofs
open Json

/-! ### Escapes -/

lemma hexValue?_hexDigit : ∀ n < 16, Text.hexValue? (Text.hexDigit n) = some n := by decide

lemma hex4?_hex {n : Nat} (hn : n < 0x10000) (rest : Text) :
    hex4? (Text.hex 4 n ++ rest) = some (n, rest) := by
  have hdigit : ∀ m, Text.hexValue? (Text.hexDigit (m % 16)) = some (m % 16) :=
    fun m => hexValue?_hexDigit _ (Nat.mod_lt _ (by decide))
  simp only [Text.hex, List.nil_append, List.cons_append, hex4?, hdigit, Option.some.injEq,
    Prod.mk.injEq, and_true]
  omega

lemma secondEscape?_unicodeEscape {n : Nat} {rest : Text} (hrest : rest ≠ []) :
    secondEscape? (unicodeEscape n ++ rest) = some (Text.hex 4 n ++ rest) := by
  have hdrop : (Text.hex 4 n ++ rest).drop 4 = rest := by simp [Text.hex]
  change secondEscape? (CodePoint.ofChar '\\' :: CodePoint.ofChar 'u' :: (Text.hex 4 n ++ rest)) = _
  rw [secondEscape?, if_pos ⟨rfl, rfl, by rwa [hdrop]⟩]

lemma readUnicode_hex {n : Nat} (hn : n < 0x10000) {rest : Text} (hrest : rest ≠ [])
    (h : (CodePoint.ofNat n).isHighSurrogate = false) :
    readUnicode (Text.hex 4 n ++ rest) = .ok (CodePoint.ofNat n, rest) := by
  obtain ⟨c, t, rfl⟩ := List.exists_cons_of_ne_nil hrest
  rw [readUnicode, hex4?_hex hn]
  simp [h]

def NoLowEscape (t : Text) : Prop :=
  secondEscape? t = none ∨ ∃ n rest, n < 0x10000 ∧ secondEscape? t = some (Text.hex 4 n ++ rest) ∧
    (CodePoint.ofNat n).isLowSurrogate = false

lemma readUnicode_high {n : Nat} (hn : n < 0x10000) {rest : Text} (hrest : rest ≠ [])
    (h : (CodePoint.ofNat n).isHighSurrogate = true) (hlow : NoLowEscape rest) :
    readUnicode (Text.hex 4 n ++ rest) = .ok (CodePoint.ofNat n, rest) := by
  obtain ⟨c, t, rfl⟩ := List.exists_cons_of_ne_nil hrest
  rw [readUnicode, hex4?_hex hn]
  obtain hnone | ⟨m, rest', hm, hsome, hm'⟩ := hlow
  · simp [h, hnone]
  · simp [h, hsome, hex4?_hex hm, hm']

lemma readUnicode_pair {n m : Nat} (hn : n < 0x10000) (hm : m < 0x10000) {rest : Text}
    (hrest : rest ≠ []) (h : (CodePoint.ofNat n).isHighSurrogate = true)
    (hlow : (CodePoint.ofNat m).isLowSurrogate = true) :
    readUnicode (Text.hex 4 n ++ (unicodeEscape m ++ rest)) =
      .ok (CodePoint.pair (CodePoint.ofNat n) (CodePoint.ofNat m), rest) := by
  have hsecond := secondEscape?_unicodeEscape (n := m) hrest
  rw [readUnicode, hex4?_hex hn]
  obtain ⟨c, t, ht⟩ : ∃ c t, unicodeEscape m ++ rest = c :: t := ⟨_, _, rfl⟩
  rw [ht] at hsecond ⊢
  simp [h, hsecond, hex4?_hex hm, hlow]

/-! ### Strings -/

lemma readString_escape {start read rest rest' : Text} {c : CodePoint}
    (h : readEscape start rest = .ok (c, rest')) :
    readString start read (CodePoint.ofChar '\\' :: rest) = readString start (c :: read) rest' := by
  rw [readString, if_neg (by decide), if_pos rfl]
  split
  · next stop hstop =>
    rw [h] at hstop
    simp at hstop
  · next x left hx =>
    rw [h] at hx
    obtain ⟨rfl, rfl⟩ := Prod.mk.inj (Except.ok.inj hx)
    rfl

lemma readString_unicodeEscape {start read rest rest' : Text} {n : Nat} {c : CodePoint}
    (h : readUnicode (Text.hex 4 n ++ rest) = .ok (c, rest')) :
    readString start read (unicodeEscape n ++ rest) = readString start (c :: read) rest' := by
  change readString start read
    (CodePoint.ofChar '\\' :: CodePoint.ofChar 'u' :: (Text.hex 4 n ++ rest)) = _
  refine readString_escape ?_
  rw [readEscape, CodePoint.char?_ofChar]
  exact h

lemma pair_halves {c : CodePoint} (hc : 0x10000 ≤ c.val) :
    let high := 0xD800 + (c.val - 0x10000) / 0x400
    let low := 0xDC00 + (c.val - 0x10000) % 0x400
    high < 0x10000 ∧ low < 0x10000 ∧ (CodePoint.ofNat high).isHighSurrogate = true ∧
      (CodePoint.ofNat high).isLowSurrogate = false ∧
      (CodePoint.ofNat low).isLowSurrogate = true ∧
      CodePoint.pair (CodePoint.ofNat high) (CodePoint.ofNat low) = c := by
  intro high low
  have hlt := c.isLt
  have hhigh : high ≤ 0xDBFF := by omega
  have hlow : low ≤ 0xDFFF := by omega
  have hval : (CodePoint.ofNat high).val = high := CodePoint.val_ofNat (by omega)
  have hval' : (CodePoint.ofNat low).val = low := CodePoint.val_ofNat (by omega)
  have hsum : 0x10000 + (high - 0xD800) * 0x400 + (low - 0xDC00) = c.val := by omega
  refine ⟨by omega, by omega, ?_, ?_, ?_, ?_⟩
  · simp only [CodePoint.isHighSurrogate, hval, Bool.and_eq_true, decide_eq_true_eq]
    omega
  · simp only [CodePoint.isLowSurrogate, hval, Bool.and_eq_false_iff, decide_eq_false_iff_not]
    omega
  · simp only [CodePoint.isLowSurrogate, hval', Bool.and_eq_true, decide_eq_true_eq]
    omega
  · rw [CodePoint.pair, hval, hval', hsum, CodePoint.ofNat_val]

/-- How a character is written: after a backslash, as it is, or by number in one or two units. -/
inductive Written (c : CodePoint) : Text → Prop
  | short (e : CodePoint) (h : c.val < 0x7F) (he : 0x20 ≤ e.val ∧ e.val < 0x7F)
      (hu : e ≠ CodePoint.ofChar 'u')
      (hread : ∀ start rest, readEscape start (e :: rest) = .ok (c, rest)) :
    Written c [CodePoint.ofChar '\\', e]
  | plain (hquote : c ≠ CodePoint.ofChar '"') (hslash : c ≠ CodePoint.ofChar '\\')
      (hlow : 0x20 ≤ c.val) (hhigh : c.val < 0x7F) : Written c [c]
  | unit (h : c.val < 0x10000) : Written c (unicodeEscape c.val)
  | pair (h : 0x10000 ≤ c.val) :
    Written c (unicodeEscape (0xD800 + (c.val - 0x10000) / 0x400) ++
      unicodeEscape (0xDC00 + (c.val - 0x10000) % 0x400))

lemma escapeChar_written (c : CodePoint) : Written c (escapeChar c) := by
  unfold escapeChar
  split
  · next h =>
    subst h
    exact .short (CodePoint.ofChar '"') (by decide) (by decide) (by decide) fun _ _ => rfl
  split
  · next h =>
    subst h
    exact .short (CodePoint.ofChar '\\') (by decide) (by decide) (by decide) fun _ _ => rfl
  split
  · next h =>
    subst h
    exact .short (CodePoint.ofChar 'n') (by decide) (by decide) (by decide) fun _ _ => rfl
  split
  · next h =>
    subst h
    exact .short (CodePoint.ofChar 'r') (by decide) (by decide) (by decide) fun _ _ => rfl
  split
  · next h =>
    subst h
    exact .short (CodePoint.ofChar 't') (by decide) (by decide) (by decide) fun _ _ => rfl
  split
  · next h =>
    obtain rfl : c = CodePoint.ofChar '\x08' := by
      rw [← CodePoint.ofNat_val c, h]
      rfl
    exact .short (CodePoint.ofChar 'b') (by decide) (by decide) (by decide) fun _ _ => rfl
  split
  · next h =>
    obtain rfl : c = CodePoint.ofChar '\x0c' := by
      rw [← CodePoint.ofNat_val c, h]
      rfl
    exact .short (CodePoint.ofChar 'f') (by decide) (by decide) (by decide) fun _ _ => rfl
  split
  · next hquote hslash _ _ _ _ _ h => exact .plain hquote hslash h.1 h.2
  split
  · next h => exact .unit h
  · next h => exact .pair (not_lt.mp h)


/-- All characters are printable ASCII. -/
def Printable (t : Text) : Prop := ∀ c ∈ t, 0x20 ≤ c.val ∧ c.val < 0x7F

instance (t : Text) : Decidable (Printable t) :=
  inferInstanceAs (Decidable (∀ c ∈ t, 0x20 ≤ c.val ∧ c.val < 0x7F))

lemma printable_append {t u : Text} (ht : Printable t) (hu : Printable u) : Printable (t ++ u) := by
  intro c hc
  obtain h | h := List.mem_append.mp hc
  · exact ht c h
  · exact hu c h

lemma printable_cons {c : CodePoint} {t : Text} (hc : 0x20 ≤ c.val ∧ c.val < 0x7F)
    (ht : Printable t) : Printable (c :: t) :=
  List.forall_mem_cons.mpr ⟨hc, ht⟩

lemma surrogateFree_of_printable {t : Text} (h : Printable t) : SurrogateFree t := by
  intro c hc
  rw [isSurrogate_eq_false_iff]
  exact .inl (by have := h c hc; omega)

lemma printable_unicodeEscape (n : Nat) : Printable (unicodeEscape n) := by
  have hdigit : ∀ m < 16, Printable [Text.hexDigit m] := by decide
  have hlast : ∀ m, Printable [Text.hexDigit (m % 16)] :=
    fun m => hdigit _ (Nat.mod_lt m (by decide))
  rw [unicodeEscape]
  simp only [Text.hex, List.nil_append, List.append_assoc]
  exact printable_append (by decide) <| printable_append (hlast _) <| printable_append (hlast _) <|
    printable_append (hlast _) (hlast _)

lemma printable_escapeChar (c : CodePoint) : Printable (escapeChar c) := by
  have hwritten := escapeChar_written c
  generalize escapeChar c = w at hwritten ⊢
  cases hwritten with
  | short e _ he _ _ => exact printable_cons (by decide) (printable_cons he (by decide))
  | plain _ _ hlow hhigh => exact printable_cons ⟨hlow, hhigh⟩ (by decide)
  | unit => exact printable_unicodeEscape _
  | pair => exact printable_append (printable_unicodeEscape _) (printable_unicodeEscape _)

/-- A character that is no high surrogate is read back, whatever follows it. -/
lemma readString_escapeChar {c : CodePoint} (hc : c.isHighSurrogate = false) {rest : Text}
    (hrest : rest ≠ []) (start read : Text) :
    readString start read (escapeChar c ++ rest) = readString start (c :: read) rest := by
  have hwritten := escapeChar_written c
  generalize escapeChar c = w at hwritten ⊢
  cases hwritten with
  | short e _ _ _ hread => exact readString_escape (hread start rest)
  | plain hquote hslash hlow _ =>
    rw [List.singleton_append, readString, if_neg hquote, if_neg hslash, if_neg (by omega)]
  | unit h =>
    have hread := readUnicode_hex h hrest (by rwa [CodePoint.ofNat_val])
    rw [CodePoint.ofNat_val] at hread
    exact readString_unicodeEscape hread
  | pair h =>
    obtain ⟨hn, hm, hhigh, -, hlow, hpair⟩ := pair_halves h
    have hread := readUnicode_pair hn hm hrest hhigh hlow
    rw [hpair] at hread
    rw [List.append_assoc]
    exact readString_unicodeEscape hread

lemma escapeChar_surrogate {c : CodePoint} (hlow : 0x7F ≤ c.val) (hhigh : c.val < 0x10000) :
    escapeChar c = unicodeEscape c.val := by
  have hwritten := escapeChar_written c
  generalize escapeChar c = w at hwritten ⊢
  cases hwritten with
  | short e h => omega
  | plain _ _ _ h => omega
  | unit => rfl
  | pair h => omega

lemma noLowEscape_escapeChar {c : CodePoint} (hc : c.isLowSurrogate = false) {rest : Text}
    (hrest : rest ≠ []) : NoLowEscape (escapeChar c ++ rest) := by
  have hwritten := escapeChar_written c
  generalize escapeChar c = w at hwritten ⊢
  cases hwritten with
  | short e _ _ hu _ =>
    left
    rw [List.cons_append, List.singleton_append, secondEscape?, if_neg (fun h => hu h.2.1)]
  | plain _ hslash _ _ =>
    left
    obtain ⟨u, t, rfl⟩ := List.exists_cons_of_ne_nil hrest
    rw [List.singleton_append, secondEscape?, if_neg (fun h => hslash h.1)]
  | unit h =>
    exact .inr ⟨c.val, rest, h, secondEscape?_unicodeEscape hrest, by rwa [CodePoint.ofNat_val]⟩
  | pair h =>
    obtain ⟨hn, -, -, hhigh, -, -⟩ := pair_halves h
    rw [List.append_assoc]
    exact .inr ⟨_, _, hn, secondEscape?_unicodeEscape (by simp [hrest]), hhigh⟩

lemma noLowEscape_quote (rest : Text) : NoLowEscape (CodePoint.ofChar '"' :: rest) := by
  left
  cases rest with
  | nil => rfl
  | cons u rest => rw [secondEscape?, if_neg (fun h => absurd h.1 (by decide))]

lemma readString_high {c : CodePoint} (hc : c.isHighSurrogate = true) {rest : Text}
    (hrest : rest ≠ []) (hlow : NoLowEscape rest) (start read : Text) :
    readString start read (escapeChar c ++ rest) = readString start (c :: read) rest := by
  have hbounds : 0xD800 ≤ c.val ∧ c.val ≤ 0xDBFF := by simpa [CodePoint.isHighSurrogate] using hc
  have hread := readUnicode_high (n := c.val) (by omega) hrest (by rwa [CodePoint.ofNat_val]) hlow
  rw [CodePoint.ofNat_val] at hread
  rw [escapeChar_surrogate (by omega) (by omega)]
  exact readString_unicodeEscape hread

lemma readString_pair {a b : CodePoint} (ha : a.isHighSurrogate = true)
    (hb : b.isLowSurrogate = true) {rest : Text} (hrest : rest ≠ []) (start read : Text) :
    readString start read (escapeChar a ++ (escapeChar b ++ rest)) =
      readString start (CodePoint.pair a b :: read) rest := by
  have hboundsA : 0xD800 ≤ a.val ∧ a.val ≤ 0xDBFF := by simpa [CodePoint.isHighSurrogate] using ha
  have hboundsB : 0xDC00 ≤ b.val ∧ b.val ≤ 0xDFFF := by simpa [CodePoint.isLowSurrogate] using hb
  have hread := readUnicode_pair (n := a.val) (m := b.val) (by omega) (by omega) hrest
    (by rwa [CodePoint.ofNat_val]) (by rwa [CodePoint.ofNat_val])
  rw [CodePoint.ofNat_val, CodePoint.ofNat_val] at hread
  rw [escapeChar_surrogate (by omega) (by omega), escapeChar_surrogate (by omega) (by omega)]
  exact readString_unicodeEscape hread

/-- What was written between quotes is read back, with pairs of surrogates joined. -/
lemma readString_write (start read t rest : Text) :
    readString start read (t.flatMap escapeChar ++ CodePoint.ofChar '"' :: rest) =
      .ok (read.reverse ++ Text.joinPairs t, rest) := by
  have hne : ∀ t : Text, t.flatMap escapeChar ++ CodePoint.ofChar '"' :: rest ≠ [] := by simp
  have hend : ∀ read, readString start read (CodePoint.ofChar '"' :: rest) =
      .ok (read.reverse, rest) := by
    intro read
    rw [readString, if_pos rfl]
  induction t using Text.joinPairs.induct generalizing read with
  | case1 a b t hpair ih =>
    rw [Bool.and_eq_true] at hpair
    rw [Text.joinPairs, if_pos (by simpa using hpair), List.flatMap_cons, List.flatMap_cons,
      List.append_assoc, List.append_assoc, readString_pair hpair.1 hpair.2 (hne t), ih]
    simp
  | case2 a b t hpair ih =>
    rw [Text.joinPairs, if_neg hpair, List.flatMap_cons, List.append_assoc]
    cases ha : a.isHighSurrogate with
    | false =>
      rw [readString_escapeChar ha (hne _), ih]
      simp
    | true =>
      have hb : b.isLowSurrogate = false := by simpa [ha] using hpair
      have hlow : NoLowEscape ((b :: t).flatMap escapeChar ++ CodePoint.ofChar '"' :: rest) := by
        rw [List.flatMap_cons, List.append_assoc]
        exact noLowEscape_escapeChar hb (hne t)
      rw [readString_high ha (hne _) hlow, ih]
      simp
  | case3 t ht =>
    obtain _ | ⟨a, _ | ⟨b, t⟩⟩ := t
    · simp [hend, Text.joinPairs]
    · have hstep : readString start read (escapeChar a ++ CodePoint.ofChar '"' :: rest) =
          readString start (a :: read) (CodePoint.ofChar '"' :: rest) := by
        cases ha : a.isHighSurrogate with
        | false => exact readString_escapeChar ha (hne []) start read
        | true => exact readString_high ha (hne []) (noLowEscape_quote rest) start read
      simp [hstep, hend, Text.joinPairs]
    · exact absurd rfl (ht a b t)

lemma joinPairs_surrogateFree {t : Text} (ht : SurrogateFree t) : Text.joinPairs t = t := by
  induction t using Text.joinPairs.induct with
  | case1 a b t hpair =>
    have ha := ht a (by simp)
    rw [isSurrogate_eq_false_iff] at ha
    simp only [CodePoint.isHighSurrogate, Bool.and_eq_true, decide_eq_true_eq] at hpair
    omega
  | case2 a b t hpair ih =>
    rw [Text.joinPairs, if_neg hpair, ih fun c hc => ht c (List.mem_cons_of_mem a hc)]
  | case3 t hshort => rw [Text.joinPairs.eq_2 t hshort]

/-! ### Numbers -/

def Ends (t : Text) : Prop :=
  ∀ c ∈ t.head?, c = CodePoint.ofChar ',' ∨ c = CodePoint.ofChar ']' ∨ c = CodePoint.ofChar '\x7d'

def digitCount (n : Nat) : Nat := (Text.ofNat n).length

lemma ofNat_eq_map (n : Nat) : Text.ofNat n = (Nat.toDigits 10 n).map CodePoint.ofChar := by
  rw [Text.ofNat, Text.ofString, Nat.toList_repr]

lemma isAsciiDigit_of_mem_ofNat {n : Nat} {c : CodePoint} (hc : c ∈ Text.ofNat n) :
    c.isAsciiDigit = true := by
  rw [ofNat_eq_map, List.mem_map] at hc
  obtain ⟨char, hchar, rfl⟩ := hc
  have hdigit := Nat.isDigit_of_mem_toDigits (by decide) (by decide) hchar
  simp only [Char.isDigit, Bool.and_eq_true, decide_eq_true_eq] at hdigit
  have hlow := UInt32.le_iff_toNat_le.mp hdigit.1
  have hhigh := UInt32.le_iff_toNat_le.mp hdigit.2
  rw [CodePoint.isAsciiDigit, Bool.and_eq_true]
  exact ⟨decide_eq_true hlow, decide_eq_true hhigh⟩

lemma printable_ofNat (n : Nat) : Printable (Text.ofNat n) := by
  intro c hc
  have hdigit := isAsciiDigit_of_mem_ofNat hc
  simp only [CodePoint.isAsciiDigit, Bool.and_eq_true, decide_eq_true_eq] at hdigit
  omega

lemma ofNat_eq_cons (n : Nat) : ∃ c t, Text.ofNat n = c :: t ∧ c.isAsciiDigit = true := by
  have hne : Text.ofNat n ≠ [] := by simp [ofNat_eq_map, Nat.toDigits_ne_nil]
  obtain ⟨c, t, ht⟩ := List.exists_cons_of_ne_nil hne
  exact ⟨c, t, ht, isAsciiDigit_of_mem_ofNat (n := n) (by simp [ht])⟩

lemma ofDigits_ofNat (n : Nat) : ofDigits (Text.ofNat n) = n := by
  rw [ofDigits, ofNat_eq_map, List.map_map, Text.ofDigitValues, List.foldl_map]
  exact Nat.ofDigitChars_toDigits (by decide) (by decide)

lemma takeDigits_ofNat (n : Nat) {rest : Text} (hrest : ∀ c ∈ rest.head?, c.isAsciiDigit = false) :
    takeDigits (Text.ofNat n ++ rest) = (Text.ofNat n, rest) := by
  have hdigits : ∀ c ∈ Text.ofNat n, c.isAsciiDigit = true := fun c => isAsciiDigit_of_mem_ofNat
  rw [takeDigits, List.span_eq_takeWhile_dropWhile, List.takeWhile_append_of_pos hdigits,
    List.dropWhile_append_of_pos hdigits]
  cases rest with
  | nil => simp
  | cons c t =>
    have hc : c.isAsciiDigit = false := hrest c rfl
    simp [hc]

lemma head_ofNat {n : Nat} (hn : n ≠ 0) :
    ∃ c t, Text.ofNat n = c :: t ∧ c ≠ CodePoint.ofChar '0' := by
  induction n using Nat.strong_induction_on with
  | _ n ih =>
    obtain hlt | hle := lt_or_ge n 10
    · rw [ofNat_eq_map, Nat.toDigits_of_lt_base hlt]
      have hdigit : ∀ n < 10, n ≠ 0 → CodePoint.ofChar n.digitChar ≠ CodePoint.ofChar '0' := by
        decide
      exact ⟨_, [], rfl, hdigit n hlt hn⟩
    · obtain ⟨c, t, ht, hc⟩ := ih (n / 10) (by omega) (by omega)
      rw [ofNat_eq_map] at ht
      rw [ofNat_eq_map, Nat.toDigits_of_base_le (by decide) hle, List.map_append, ht]
      exact ⟨c, _, rfl, hc⟩

lemma wholePart?_ofNat (n : Nat) {rest : Text} (hrest : ∀ c ∈ rest.head?, c.isAsciiDigit = false) :
    wholePart? (Text.ofNat n ++ rest) = some (Text.ofNat n, rest) := by
  by_cases hn : n = 0
  · subst hn
    rfl
  · have hspan := takeDigits_ofNat n hrest
    obtain ⟨c, t, ht, hc⟩ := head_ofNat hn
    have hdigit : c.isAsciiDigit = true := isAsciiDigit_of_mem_ofNat (n := n) (by simp [ht])
    rw [ht, List.cons_append] at hspan ⊢
    rw [wholePart?, if_neg hc, if_pos hdigit, hspan]

lemma ends_follow {rest : Text} (hrest : Ends rest) : ∀ c ∈ rest.head?,
    c.isAsciiDigit = false ∧ c ≠ CodePoint.ofChar '.' ∧
      ¬(c = CodePoint.ofChar 'e' ∨ c = CodePoint.ofChar 'E') := by
  intro c hc
  obtain rfl | rfl | rfl := hrest c hc <;> decide

lemma exponentPart_ends {rest : Text} (hrest : Ends rest) : exponentPart rest = (none, rest) := by
  cases rest with
  | nil => rfl
  | cons c t => rw [exponentPart, if_neg (ends_follow hrest c rfl).2.2]

lemma readMagnitude?_ofNat (negative : Bool) {n : Nat} (hn : digitCount n ≤ Text.maxDigits)
    {rest : Text} (hrest : Ends rest) :
    readMagnitude? negative (Text.ofNat n ++ rest) =
      some (.ok (.int (if negative then -(n : Int) else n), rest)) := by
  have hfraction : fractionPart rest = ([], rest) := by
    cases rest with
    | nil => rfl
    | cons c t => rw [fractionPart, if_neg (ends_follow hrest c rfl).2.1]
  rw [readMagnitude?, wholePart?_ofNat n fun c hc => (ends_follow hrest c hc).1]
  simp only [hfraction, exponentPart_ends hrest]
  rw [← digitCount, if_neg (not_lt.mpr hn), ofDigits_ofNat]

/-- A word has two characters at least, and they are not the beginning of a number. -/
def startsLikeWord : Text → Bool
  | a :: b :: _ => !a.isAsciiDigit && (a ≠ CodePoint.ofChar '-' || !b.isAsciiDigit)
  | _ => false

lemma readWord?_eq_none {t : Text} (h : startsLikeWord t = false) : readWord? t = none := by
  have hwords : ∀ word ∈ words, startsLikeWord word.1 = true := by decide
  rw [readWord?, Option.map_eq_none_iff, List.find?_eq_none]
  intro word hword hprefix
  obtain ⟨rest, rfl⟩ := List.isPrefixOf_iff_prefix.mp hprefix
  have hstart := hwords word hword
  cases hw : word.1 with
  | nil => simp [hw, startsLikeWord] at hstart
  | cons a u =>
    cases u with
    | nil => simp [hw, startsLikeWord] at hstart
    | cons b u => simp_all [startsLikeWord]

lemma readWord?_digit {c : CodePoint} (hc : c.isAsciiDigit = true) (t : Text) :
    readWord? (c :: t) = none := by
  refine readWord?_eq_none ?_
  cases t with
  | nil => rfl
  | cons d t => simp [startsLikeWord, hc]

lemma readWord?_minus {d : CodePoint} (hd : d.isAsciiDigit = true) (t : Text) :
    readWord? (CodePoint.ofChar '-' :: d :: t) = none := by
  refine readWord?_eq_none ?_
  simp [startsLikeWord, hd]

lemma readScalar_ofInt {n : Int} (hn : digitCount n.natAbs ≤ Text.maxDigits) {rest : Text}
    (hrest : Ends rest) : readScalar (Text.ofInt n ++ rest) = .ok (.int n, rest) := by
  cases n with
  | ofNat n =>
    have hread := readMagnitude?_ofNat false (n := n) hn hrest
    obtain ⟨c, t, ht, hdigit⟩ := ofNat_eq_cons n
    have hminus : c ≠ CodePoint.ofChar '-' := by
      rintro rfl
      exact absurd hdigit (by decide)
    rw [ht, List.cons_append] at hread
    rw [Text.ofInt, ht, List.cons_append, readScalar, readWord?_digit hdigit]
    simp only [if_neg hminus, hread]
    rfl
  | negSucc n =>
    have hread := readMagnitude?_ofNat true (n := n + 1) hn hrest
    obtain ⟨c, t, ht, hdigit⟩ := ofNat_eq_cons (n + 1)
    rw [ht, List.cons_append] at hread
    rw [Text.ofInt, ht, List.cons_append, List.cons_append, readScalar, readWord?_minus hdigit]
    simp only [if_true, hread]
    rfl

end EnvelopeStore.Proofs
