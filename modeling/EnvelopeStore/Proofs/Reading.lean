import EnvelopeStore.Proofs.Tokens

/-!
# What a successful reading has read

Each reader of documents that gives a value has taken one of a few steps, and leaves an end of the
text that it was given, whatever the text holds. The steps are told without the readers where no
fuel is spent: escapes, strings, numbers and words.
-/

namespace EnvelopeStore.Proofs
open Json

section

variable {t rest : Text}

lemma skipBlanks_suffix (t : Text) : skipBlanks t <:+ t := List.dropWhile_suffix _

/-! ### Strings -/

lemma hex4?_eq_some {n : Nat} (h : hex4? t = some (n, rest)) :
    rest = t.drop 4 ∧ n < 0x10000 := by
  have hdigit : ∀ {c : CodePoint} {m : Nat}, Text.hexValue? c = some m → m < 16 := by
    intro c m hm
    unfold Text.hexValue? at hm
    split at hm
    · obtain rfl := Option.some.inj hm
      omega
    split at hm
    · obtain rfl := Option.some.inj hm
      omega
    split at hm
    · obtain rfl := Option.some.inj hm
      omega
    · simp at hm
  unfold hex4? at h
  split at h
  · split at h
    · next ha hb hc hd =>
      obtain ⟨rfl, rfl⟩ := Prod.mk.inj (Option.some.inj h)
      have := hdigit ha
      have := hdigit hb
      have := hdigit hc
      have := hdigit hd
      exact ⟨rfl, by omega⟩
    · simp at h
  · simp at h

lemma hex4?_suffix {n : Nat} (h : hex4? t = some (n, rest)) : rest <:+ t := by
  rw [(hex4?_eq_some h).1]
  exact List.drop_suffix 4 t

lemma secondEscape?_eq_some_iff :
    secondEscape? t = some rest ↔
      t = CodePoint.ofChar '\\' :: CodePoint.ofChar 'u' :: rest ∧ rest.drop 4 ≠ [] := by
  unfold secondEscape?
  split
  · next b u left =>
    by_cases h : b = CodePoint.ofChar '\\' ∧ u = CodePoint.ofChar 'u' ∧ left.drop 4 ≠ []
    · rw [if_pos h]
      obtain ⟨rfl, rfl, hleft⟩ := h
      constructor
      · rintro ⟨rfl⟩
        exact ⟨rfl, hleft⟩
      · rintro ⟨heq, -⟩
        simpa using heq
    · rw [if_neg h]
      refine iff_of_false (by simp) ?_
      rintro ⟨heq, hne⟩
      simp only [List.cons.injEq] at heq
      obtain ⟨rfl, rfl, rfl⟩ := heq
      exact h ⟨rfl, rfl, hne⟩
  · next hshort =>
    refine iff_of_false (by simp) ?_
    rintro ⟨rfl, -⟩
    exact hshort _ _ _ rfl

def NoLowNext (t : Text) : Prop :=
  ∀ left m left', secondEscape? t = some left → hex4? left = some (m, left') →
    (CodePoint.ofNat m).isLowSurrogate = false

/-- What an escape by number is read as: the character of its number, which may be a high surrogate
only if no low one follows, or the character that two of them encode. -/
inductive UnicodeRead (t : Text) : CodePoint → Text → Prop
  | single {n : Nat} {rest : Text} (hread : hex4? t = some (n, rest)) (hrest : rest ≠ [])
      (hnext : (CodePoint.ofNat n).isHighSurrogate = true → NoLowNext rest) :
    UnicodeRead t (CodePoint.ofNat n) rest
  | paired {n m : Nat} {first second rest : Text} (hread : hex4? t = some (n, first))
      (hnext : secondEscape? first = some second) (hread' : hex4? second = some (m, rest))
      (hhigh : (CodePoint.ofNat n).isHighSurrogate = true)
      (hlow : (CodePoint.ofNat m).isLowSurrogate = true) :
    UnicodeRead t (CodePoint.pair (CodePoint.ofNat n) (CodePoint.ofNat m)) rest

lemma unicodeRead_of_eq {c : CodePoint} (h : readUnicode t = .ok (c, rest)) :
    UnicodeRead t c rest := by
  unfold readUnicode at h
  split at h
  · simp at h
  · simp at h
  next n first hnil hfirst =>
  have hne : first ≠ [] := hnil
  dsimp only at h
  split at h
  · next hhigh =>
    split at h
    · next hnone =>
      obtain ⟨rfl, rfl⟩ := Prod.mk.inj (Except.ok.inj h)
      refine .single hfirst hne fun _ left m left' hleft => ?_
      rw [hnone] at hleft
      simp at hleft
    next second hsecond =>
    split at h
    · simp at h
    next m after hm =>
    split at h
    · next hlow =>
      obtain ⟨rfl, rfl⟩ := Prod.mk.inj (Except.ok.inj h)
      exact .paired hfirst hsecond hm hhigh hlow
    · next hlow =>
      obtain ⟨rfl, rfl⟩ := Prod.mk.inj (Except.ok.inj h)
      refine .single hfirst hne fun _ left k left' hleft hk => ?_
      obtain rfl := Option.some.inj (hsecond.symm.trans hleft)
      obtain ⟨rfl, -⟩ := Prod.mk.inj (Option.some.inj (hm.symm.trans hk))
      exact Bool.eq_false_iff.mpr hlow
  · next hhigh =>
    obtain ⟨rfl, rfl⟩ := Prod.mk.inj (Except.ok.inj h)
    exact .single hfirst hne fun h => absurd h hhigh

lemma secondEscape?_suffix (h : secondEscape? t = some rest) : rest <:+ t := by
  obtain ⟨rfl, -⟩ := secondEscape?_eq_some_iff.mp h
  exact List.suffix_append [_, _] rest

lemma readUnicode_suffix {c : CodePoint} (h : readUnicode t = .ok (c, rest)) : rest <:+ t := by
  cases unicodeRead_of_eq h with
  | single hread => exact hex4?_suffix hread
  | paired hread hnext hread' =>
    exact (hex4?_suffix hread').trans ((secondEscape?_suffix hnext).trans (hex4?_suffix hread))

/-- What follows a backslash: one ASCII character for another, or an escape by number. -/
inductive EscapeRead : Text → CodePoint → Text → Prop
  | short (e : CodePoint) {c : CodePoint} {rest : Text} (he : e ≠ CodePoint.ofChar 'u')
      (hc : c.val < 0x80) : EscapeRead (e :: rest) c rest
  | unicode {t : Text} {c : CodePoint} {rest : Text} (h : readUnicode t = .ok (c, rest)) :
    EscapeRead (CodePoint.ofChar 'u' :: t) c rest

lemma eq_ofChar_of_char? {c : CodePoint} {x : Char} (h : c.char? = some x) :
    c = CodePoint.ofChar x := by
  unfold CodePoint.char? at h
  split at h
  · simp at h
  next hc =>
  obtain rfl := Option.some.inj h
  have hvalid : c.val.isValidChar := by
    have := c.isLt
    simp only [CodePoint.isSurrogate, Bool.and_eq_true, decide_eq_true_eq, not_and] at hc
    unfold Nat.isValidChar
    omega
  obtain ⟨val, hlt⟩ := c
  rw [CodePoint.ofChar, CodePoint.mk.injEq, Char.ofNat, dif_pos hvalid]
  rfl

lemma escapeRead_of_eq {start : Text} {c : CodePoint} (h : readEscape start t = .ok (c, rest)) :
    EscapeRead t c rest := by
  unfold readEscape at h
  split at h
  · simp at h
  next e left =>
  have hshort : ∀ {x y : Char}, e.char? = some x → x ≠ 'u' → y.toNat < 0x80 →
      (.ok (CodePoint.ofChar y, left) : Except Stop (CodePoint × Text)) = .ok (c, rest) →
      EscapeRead (e :: left) c rest := by
    intro x y hx hne hy heq
    obtain ⟨rfl, rfl⟩ := Prod.mk.inj (Except.ok.inj heq)
    refine .short e ?_ hy
    rintro rfl
    rw [CodePoint.char?_ofChar] at hx
    exact hne (Option.some.inj hx).symm
  split at h
  case h_9 hu =>
    rw [eq_ofChar_of_char? hu]
    exact .unicode h
  case h_10 => simp at h
  all_goals
    next hx => exact hshort hx (by decide) (by decide) h

lemma EscapeRead.suffix {c : CodePoint} (h : EscapeRead t c rest) : rest <:+ t := by
  cases h with
  | short e => exact List.suffix_cons e rest
  | unicode hread => exact (readUnicode_suffix hread).trans (List.suffix_cons _ _)

/-- How a string is read from where it stands: up to its closing quote, past an escape, or past a
character that stands for itself. -/
inductive StringRead : (read t s rest : Text) → Prop
  | close (read rest : Text) : StringRead read (CodePoint.ofChar '"' :: rest) read.reverse rest
  | escape {read t u s rest : Text} {c : CodePoint} (hescape : EscapeRead t c u)
      (hmore : StringRead (c :: read) u s rest) :
    StringRead read (CodePoint.ofChar '\\' :: t) s rest
  | plain {read t s rest : Text} {c : CodePoint} (hslash : c ≠ CodePoint.ofChar '\\')
      (hmore : StringRead (c :: read) t s rest) : StringRead read (c :: t) s rest

lemma stringRead_of_eq {start read s : Text} (h : readString start read t = .ok (s, rest)) :
    StringRead read t s rest := by
  induction read, t using readString.induct start with
  | case1 read => simp [readString] at h
  | case2 read t =>
    rw [readString, if_pos rfl] at h
    obtain ⟨rfl, rfl⟩ := Prod.mk.inj (Except.ok.inj h)
    exact .close read t
  | case3 read t stop hstop =>
    rw [readString, if_neg (by decide), if_pos rfl] at h
    split at h
    · simp at h
    · next hread =>
      rw [hread] at hstop
      simp at hstop
  | case4 read t c u hread _ ih =>
    rw [readString_escape hread] at h
    exact .escape (escapeRead_of_eq hread) (ih h)
  | case5 read c t hquote hslash hlow =>
    rw [readString, if_neg hquote, if_neg hslash, if_pos hlow] at h
    simp at h
  | case6 read c t hquote hslash hlow ih =>
    rw [readString, if_neg hquote, if_neg hslash, if_neg hlow] at h
    exact .plain hslash (ih h)

lemma StringRead.suffix {read s : Text} (h : StringRead read t s rest) : rest <:+ t := by
  induction h with
  | close read rest => exact List.suffix_cons _ rest
  | escape hescape _ ih => exact ih.trans (hescape.suffix.trans (List.suffix_cons _ _))
  | plain _ _ ih => exact ih.trans (List.suffix_cons _ _)

/-! ### Numbers and words -/

lemma takeDigits_suffix (t : Text) : (takeDigits t).2 <:+ t := by
  rw [takeDigits, List.span_eq_takeWhile_dropWhile]
  exact List.dropWhile_suffix _

lemma wholePart?_suffix {whole : Text} (h : wholePart? t = some (whole, rest)) : rest <:+ t := by
  unfold wholePart? at h
  split at h
  · simp at h
  next c t =>
  split at h
  · obtain ⟨-, rfl⟩ := Prod.mk.inj (Option.some.inj h)
    exact List.suffix_cons c t
  split at h
  · have hdigits := takeDigits_suffix (c :: t)
    rwa [Option.some.inj h] at hdigits
  · simp at h

lemma fractionPart_suffix (t : Text) : (fractionPart t).2 <:+ t := by
  unfold fractionPart
  split
  · exact List.suffix_refl []
  next c t =>
  split
  · have hdigits := takeDigits_suffix t
    split
    · exact List.suffix_refl _
    · next heq =>
      rw [heq] at hdigits
      exact hdigits.trans (List.suffix_cons c t)
  · exact List.suffix_refl _

lemma exponentSign_suffix (t : Text) : (exponentSign t).2 <:+ t := by
  unfold exponentSign
  split
  · exact List.suffix_refl []
  split
  · exact List.suffix_cons _ _
  split
  · exact List.suffix_cons _ _
  · exact List.suffix_refl _

lemma exponentPart_suffix (t : Text) : (exponentPart t).2 <:+ t := by
  unfold exponentPart
  split
  · exact List.suffix_refl []
  next c t =>
  split
  · have hdigits := takeDigits_suffix (exponentSign t).2
    dsimp only
    split
    · exact List.suffix_refl _
    · next heq =>
      rw [heq] at hdigits
      exact hdigits.trans ((exponentSign_suffix t).trans (List.suffix_cons c t))
  · exact List.suffix_refl _

def isPlain : Value → Bool
  | .null | .bool _ | .int _ | .float _ => true
  | _ => false

lemma readWord?_cases {v : Value} (h : readWord? t = some (v, rest)) :
    isPlain v = true ∧ rest <:+ t := by
  have hwords : ∀ word ∈ words, isPlain word.2 = true := by
    simp [words, isPlain]
  rw [readWord?, Option.map_eq_some_iff] at h
  obtain ⟨word, hword, heq⟩ := h
  obtain ⟨rfl, rfl⟩ := Prod.mk.inj heq
  exact ⟨hwords word (List.mem_of_find?_eq_some hword), List.drop_suffix _ t⟩

lemma readMagnitude?_cases {negative : Bool} {v : Value}
    (h : readMagnitude? negative t = some (.ok (v, rest))) : isPlain v = true ∧ rest <:+ t := by
  rw [readMagnitude?] at h
  split at h
  · simp at h
  next whole left hwhole =>
  have hsuffix : (exponentPart (fractionPart left).2).2 <:+ t :=
    (exponentPart_suffix _).trans ((fractionPart_suffix left).trans (wholePart?_suffix hwhole))
  dsimp only at h
  split at h
  · split at h
    · simp at h
    · obtain ⟨rfl, rfl⟩ := Prod.mk.inj (Except.ok.inj (Option.some.inj h))
      exact ⟨rfl, hsuffix⟩
  · obtain ⟨rfl, rfl⟩ := Prod.mk.inj (Except.ok.inj (Option.some.inj h))
    exact ⟨rfl, hsuffix⟩

lemma readScalar_cases {v : Value} (h : readScalar t = .ok (v, rest)) :
    isPlain v = true ∧ rest <:+ t := by
  rw [readScalar.eq_def] at h
  split at h
  · next r hword =>
    obtain rfl := Except.ok.inj h
    exact readWord?_cases hword
  cases t with
  | nil => simp at h
  | cons c t =>
    dsimp only at h
    generalize hmagnitude : (if c = CodePoint.ofChar '-' then readMagnitude? true t
      else readMagnitude? false (c :: t)) = magnitude at h
    cases magnitude with
    | none => simp at h
    | some r =>
      obtain rfl : r = .ok (v, rest) := h
      split at hmagnitude
      · obtain ⟨hplain, hsuffix⟩ := readMagnitude?_cases hmagnitude
        exact ⟨hplain, hsuffix.trans (List.suffix_cons c t)⟩
      · exact readMagnitude?_cases hmagnitude

/-! ### Values -/

/-- How a value is read in one step; what is inside a list or an object is read with less fuel. -/
inductive ValueRead (fuel : Nat) : (t : Text) → Value → (rest : Text) → Prop
  | text {t s rest : Text} (h : StringRead [] t s rest) :
    ValueRead fuel (CodePoint.ofChar '"' :: t) (.text s) rest
  | noItems {t rest : Text} (h : skipBlanks t = CodePoint.ofChar ']' :: rest) :
    ValueRead fuel (CodePoint.ofChar '[' :: t) (.list []) rest
  | items {t rest : Text} {v : Value} (inner : Nat)
      (h : readItems fuel inner [] (skipBlanks t) = .ok (v, rest)) :
    ValueRead fuel (CodePoint.ofChar '[' :: t) v rest
  | noFields {t rest : Text} (h : skipBlanks t = CodePoint.ofChar '\x7d' :: rest) :
    ValueRead fuel (CodePoint.ofChar '\x7b' :: t) (.object []) rest
  | fields {t rest : Text} {v : Value} (inner : Nat)
      (h : readFields fuel inner [] (skipBlanks t) = .ok (v, rest)) :
    ValueRead fuel (CodePoint.ofChar '\x7b' :: t) v rest
  | plain {t rest : Text} {v : Value} (hplain : isPlain v = true) (hrest : rest <:+ t) :
    ValueRead fuel t v rest

lemma valueRead_of_eq {fuel room : Nat} {v : Value}
    (h : readValue (fuel + 1) room t = .ok (v, rest)) : ValueRead fuel t v rest := by
  rw [readValue.eq_def] at h
  cases t with
  | nil => simp at h
  | cons c t =>
  dsimp only at h
  split at h
  · next hquote =>
    subst hquote
    cases hread : readString (CodePoint.ofChar '"' :: t) [] t with
    | error stop => simp [hread, Except.map] at h
    | ok r =>
      rw [hread] at h
      obtain ⟨rfl, rfl⟩ := Prod.mk.inj (Except.ok.inj h)
      exact .text (stringRead_of_eq hread)
  split at h
  · next hlist =>
    subst hlist
    split at h
    · simp at h
    next inner =>
    split at h
    · next hskip => exact .items inner (hskip ▸ h)
    next hskip =>
    split at h
    · next hclose =>
      subst hclose
      obtain ⟨rfl, rfl⟩ := Prod.mk.inj (Except.ok.inj h)
      exact .noItems hskip
    · exact .items inner (hskip ▸ h)
  split at h
  · next hobject =>
    subst hobject
    split at h
    · simp at h
    next inner =>
    split at h
    · next hskip => exact .fields inner (hskip ▸ h)
    next hskip =>
    split at h
    · next hclose =>
      subst hclose
      obtain ⟨rfl, rfl⟩ := Prod.mk.inj (Except.ok.inj h)
      exact .noFields hskip
    · exact .fields inner (hskip ▸ h)
  · obtain ⟨hplain, hrest⟩ := readScalar_cases h
    exact .plain hplain hrest

/-- How the next item of a list is read: the last one before the bracket, or one before a comma. -/
inductive ItemsRead (fuel room : Nat) (read : List Value) (t : Text) : Value → Text → Prop
  | last {v : Value} {left rest : Text} (hvalue : readValue fuel room t = .ok (v, left))
      (hclose : skipBlanks left = CodePoint.ofChar ']' :: rest) :
    ItemsRead fuel room read t (.list (v :: read).reverse) rest
  | next {v w : Value} {left more rest : Text} (hvalue : readValue fuel room t = .ok (v, left))
      (hcomma : skipBlanks left = CodePoint.ofChar ',' :: more)
      (hmore : readItems fuel room (v :: read) (skipBlanks more) = .ok (w, rest)) :
    ItemsRead fuel room read t w rest

lemma itemsRead_of_eq {fuel room : Nat} {read : List Value} {v : Value}
    (h : readItems (fuel + 1) room read t = .ok (v, rest)) : ItemsRead fuel room read t v rest := by
  rw [readItems] at h
  split at h
  · simp at h
  next item left hvalue =>
  split at h
  · simp at h
  next c more hskip =>
  split at h
  · next hclose =>
    subst hclose
    obtain ⟨rfl, rfl⟩ := Prod.mk.inj (Except.ok.inj h)
    exact .last hvalue hskip
  split at h
  · next hcomma =>
    subst hcomma
    exact .next hvalue hskip h
  · simp at h

/-- How a field is read: a name, a colon, and the value. -/
inductive FieldRead (fuel room : Nat) : (t name : Text) → Value → (rest : Text) → Prop
  | mk {t name colon value rest : Text} {v : Value} (hname : StringRead [] t name colon)
      (hcolon : skipBlanks colon = CodePoint.ofChar ':' :: value)
      (hvalue : readValue fuel room (skipBlanks value) = .ok (v, rest)) :
    FieldRead fuel room (CodePoint.ofChar '"' :: t) name v rest

/-- How the next field of an object is read: the last one before the brace, or one before a
comma. -/
inductive FieldsRead (fuel room : Nat) (read : Fields) (t : Text) : Value → Text → Prop
  | last {name left rest : Text} {v : Value} (hfield : FieldRead fuel room t name v left)
      (hclose : skipBlanks left = CodePoint.ofChar '\x7d' :: rest) :
    FieldsRead fuel room read t (.object (Fields.ofList ((name, v) :: read).reverse)) rest
  | next {name left more rest : Text} {v w : Value} (hfield : FieldRead fuel room t name v left)
      (hcomma : skipBlanks left = CodePoint.ofChar ',' :: more)
      (hmore : readFields fuel room ((name, v) :: read) (skipBlanks more) = .ok (w, rest)) :
    FieldsRead fuel room read t w rest

lemma fieldsRead_of_eq {fuel room : Nat} {read : Fields} {v : Value}
    (h : readFields (fuel + 1) room read t = .ok (v, rest)) :
    FieldsRead fuel room read t v rest := by
  rw [readFields.eq_def] at h
  cases t with
  | nil => simp at h
  | cons q t =>
  dsimp only at h
  split at h
  · next hquote =>
    subst hquote
    split at h
    · simp at h
    next name colon hname =>
    split at h
    · simp at h
    next c value hcolon =>
    split at h
    · next heq =>
      subst heq
      split at h
      · simp at h
      next item left hvalue =>
      have hfield := FieldRead.mk (stringRead_of_eq hname) hcolon hvalue
      split at h
      · simp at h
      next d more hskip =>
      split at h
      · next hclose =>
        subst hclose
        obtain ⟨rfl, rfl⟩ := Prod.mk.inj (Except.ok.inj h)
        exact .last hfield hskip
      split at h
      · next hcomma =>
        subst hcomma
        exact .next hfield hskip h
      · simp at h
    · simp at h
  · simp at h

lemma suffix_of_skipBlanks {c : CodePoint} (h : skipBlanks t = c :: rest) : rest <:+ t := by
  have hcons : c :: rest <:+ t := h ▸ skipBlanks_suffix t
  exact (List.suffix_cons c rest).trans hcons

lemma FieldRead.suffix_of {fuel room : Nat} {name : Text} {v : Value}
    (h : FieldRead fuel room t name v rest)
    (hread : ∀ {t}, readValue fuel room t = .ok (v, rest) → rest <:+ t) : rest <:+ t := by
  cases h with
  | mk hname hcolon hvalue =>
    have hinside := (hread hvalue).trans (skipBlanks_suffix _)
    exact hinside.trans ((suffix_of_skipBlanks hcolon).trans
      (hname.suffix.trans (List.suffix_cons _ _)))

mutual

lemma readValue_suffix {fuel room : Nat} {t rest : Text} {v : Value}
    (h : readValue fuel room t = .ok (v, rest)) : rest <:+ t := by
  match fuel with
  | 0 => simp [readValue] at h
  | fuel + 1 =>
    cases valueRead_of_eq h with
    | text hs => exact hs.suffix.trans (List.suffix_cons _ _)
    | noItems hclose => exact (suffix_of_skipBlanks hclose).trans (List.suffix_cons _ _)
    | items inner hitems =>
      exact (readItems_suffix hitems).trans ((skipBlanks_suffix _).trans (List.suffix_cons _ _))
    | noFields hclose => exact (suffix_of_skipBlanks hclose).trans (List.suffix_cons _ _)
    | fields inner hfields =>
      exact (readFields_suffix hfields).trans ((skipBlanks_suffix _).trans (List.suffix_cons _ _))
    | plain _ hrest => exact hrest

lemma readItems_suffix {fuel room : Nat} {read : List Value} {t rest : Text} {v : Value}
    (h : readItems fuel room read t = .ok (v, rest)) : rest <:+ t := by
  match fuel with
  | 0 => simp [readItems] at h
  | fuel + 1 =>
    cases itemsRead_of_eq h with
    | last hvalue hclose => exact (suffix_of_skipBlanks hclose).trans (readValue_suffix hvalue)
    | next hvalue hcomma hmore =>
      exact (readItems_suffix hmore).trans ((skipBlanks_suffix _).trans
        ((suffix_of_skipBlanks hcomma).trans (readValue_suffix hvalue)))

lemma readFields_suffix {fuel room : Nat} {read : Fields} {t rest : Text} {v : Value}
    (h : readFields fuel room read t = .ok (v, rest)) : rest <:+ t := by
  match fuel with
  | 0 => simp [readFields] at h
  | fuel + 1 =>
    cases fieldsRead_of_eq h with
    | last hfield hclose =>
      exact (suffix_of_skipBlanks hclose).trans (hfield.suffix_of fun hvalue =>
        readValue_suffix hvalue)
    | next hfield hcomma hmore =>
      have hleft := hfield.suffix_of fun hvalue => readValue_suffix hvalue
      exact (readFields_suffix hmore).trans ((skipBlanks_suffix _).trans
        ((suffix_of_skipBlanks hcomma).trans hleft))

end

lemma FieldRead.suffix {fuel room : Nat} {name : Text} {v : Value}
    (h : FieldRead fuel room t name v rest) : rest <:+ t :=
  h.suffix_of readValue_suffix

end

end EnvelopeStore.Proofs
