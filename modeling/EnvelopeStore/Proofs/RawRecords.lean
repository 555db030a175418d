import EnvelopeStore.Proofs.InlineValues
import EnvelopeStore.Proofs.Stripping
import EnvelopeStore.Proofs.Tokens

/-!
# Inline values in raw records

A raw record may hold an inline text as it is or as a string of a document, with double quotes
around it. Whoever looks for one takes all quotes off both ends, those of the ciphertext included;
what is then left has to be an inline text. So a ciphertext of quotes only is missed where it stands
bare, and none is missed in a document, where each of its quotes comes with a backslash.
-/

namespace EnvelopeStore.Proofs
open InlineValue

abbrev quote : CodePoint := '"'

/-- A run of double quotes. -/
def Quotes (t : Text) : Prop := ∀ c ∈ t, c = quote

/-- A value is the inline text of two parts between two runs of quotes, the second of which has all
the quotes at the end. -/
structure Surrounds (v : Value) (before keyId ciphertext after : Text) : Prop where
  text : v = .text (before ++ inlineText keyId ciphertext ++ after)
  quotes_before : Quotes before
  quotes_after : Quotes after
  isPart_keyId : IsPart keyId
  isPart_ciphertext : IsPart ciphertext
  closed : ciphertext.getLast? ≠ some quote

section

variable {v : Value} {s k c before after k' c' before' after' : Text}

/-! ### Taking off the quotes -/

lemma getLast?_inlineText (hc : c ≠ []) : (inlineText k c).getLast? = c.getLast? :=
  List.getLast?_append_of_ne_nil _ hc

lemma bare_inlineText (hc : c ≠ []) :
    Bare (· = quote) (inlineText k c) ↔ c.getLast? ≠ some quote := by
  constructor
  · rintro ⟨-, hlast⟩ hquote
    rw [getLast?_inlineText hc, hquote] at hlast
    exact absurd (hlast quote rfl) (by simp)
  · intro hquote
    refine ⟨?_, ?_⟩
    · intro d hd
      obtain rfl : CodePoint.ofChar 'e' = d := Option.some.inj hd
      decide
    · intro d hd
      rw [getLast?_inlineText hc] at hd
      exact decide_eq_false fun heq => hquote (heq ▸ hd)

lemma quotes_iff : Quotes s ↔ ∀ c ∈ s, decide (c = quote) = true := by simp [Quotes]

lemma exists_isInline (v : Value) : ∃ found, isInline v = .ok found := by
  cases v with
  | text s =>
    obtain ⟨i, -, hfound⟩ | ⟨fault, -, hnone⟩ := ofValue?_cases (.text (s.strip (· = quote)))
    · exact ⟨true, congrArg (Except.map Option.isSome) hfound⟩
    · exact ⟨false, congrArg (Except.map Option.isSome) hnone⟩
  | _ => exact ⟨false, rfl⟩

lemma isInline_text_iff :
    isInline (.text s) = .ok true ↔ ∃ k c, Spells (.text (s.strip (· = quote))) k c := by
  have hread : isInline (.text s) = (ofValue? (.text (s.strip (· = quote)))).map Option.isSome := rfl
  obtain ⟨i, hi, hfound⟩ | ⟨fault, hfault, hnone⟩ := ofValue?_cases (.text (s.strip (· = quote)))
  · obtain ⟨k, c, hspells, -⟩ := spells_of_ofValue hi
    rw [hread, hfound]
    exact iff_of_true rfl ⟨k, c, hspells⟩
  · rw [hread, hnone]
    exact iff_of_false nofun (ofValue_malformed_iff.mp ⟨fault, hfault⟩)

lemma isInline_iff : isInline v = .ok true ↔ ∃ before k c after, Surrounds v before k c after := by
  constructor
  · intro h
    cases v with
    | text s =>
      obtain ⟨k, c, htext, hk, hc⟩ := isInline_text_iff.mp h
      obtain ⟨before, after, hbefore, hafter, hs⟩ := exists_surrounded (· = quote) s
      have hbare := bare_strip (· = quote) s
      rw [Value.text.inj htext] at hs hbare
      exact ⟨before, k, c, after, congrArg Value.text hs, quotes_iff.mpr hbefore,
        quotes_iff.mpr hafter, hk, hc, (bare_inlineText hc.1).mp hbare⟩
    | _ => exact nomatch h
  · rintro ⟨before, k, c, after, rfl, hbefore, hafter, hk, hc, hclosed⟩
    have hbare := (bare_inlineText (k := k) hc.1).mpr hclosed
    have hstrip := strip_surrounded (quotes_iff.mp hbefore) (quotes_iff.mp hafter) hbare
    exact isInline_text_iff.mpr ⟨k, c, congrArg Value.text hstrip, hk, hc⟩

/-! ### Colons -/

lemma colon_notMem_quotes (h : Quotes s) : colon ∉ s := by
  intro hmem
  exact absurd (h colon hmem) (by decide)

lemma segments_surrounded (hbefore : Quotes before) (hk : colon ∉ k) (hc : colon ∉ c)
    (hafter : Quotes after) :
    (before ++ inlineText k c ++ after).segments colon =
      [before ++ Text.ofString "enc", Text.ofString "AES256", k, c ++ after] := by
  have htext : before ++ inlineText k c ++ after =
      (before ++ Text.ofString "enc") ++ colon ::
        (Text.ofString "AES256" ++ colon :: (k ++ colon :: (c ++ after))) := by
    simp [inlineText, Text.ofString]
  have hfirst : colon ∉ before ++ Text.ofString "enc" := by
    rw [List.mem_append, not_or]
    exact ⟨colon_notMem_quotes hbefore, by decide⟩
  have hsecond : colon ∉ Text.ofString "AES256" := by decide
  have hlast : colon ∉ c ++ after := by
    rw [List.mem_append, not_or]
    exact ⟨hc, colon_notMem_quotes hafter⟩
  rw [htext, segments_append hfirst, segments_append hsecond, segments_append hk,
    segments_of_notMem hlast]

/-- Between quotes, an inline text is found unless its ciphertext is nothing but quotes. -/
lemma isInline_between (hbefore : Quotes before) (hk : IsPart k) (hc : colon ∉ c)
    (hafter : Quotes after) :
    isInline (.text (before ++ inlineText k c ++ after)) = .ok true ↔ ¬Quotes c := by
  rw [isInline_iff]
  constructor
  · rintro ⟨before', k', c', after', htext, hbefore', hafter', hk', hc', hclosed⟩ hquotes
    have hsegments := segments_surrounded hbefore hk.2 hc hafter
    rw [Value.text.inj htext, segments_surrounded hbefore' hk'.2 hc'.2 hafter'] at hsegments
    have hrest : c' ++ after' = c ++ after := by simpa using congrArg List.getLast? hsegments
    have hlast : c'.getLast hc'.1 ∈ c ++ after :=
      hrest ▸ List.mem_append_left _ (List.getLast_mem hc'.1)
    have hquote : c'.getLast hc'.1 = quote := (List.mem_append.mp hlast).elim (hquotes _) (hafter _)
    exact hclosed (by rw [List.getLast?_eq_some_getLast hc'.1, hquote])
  · intro hquotes
    let closed := c.rdropWhile (· = quote)
    let run := c.rtakeWhile (· = quote)
    have hsplit : closed ++ run = c := List.rdropWhile_append_rtakeWhile
    have hrun : Quotes run := by
      rw [quotes_iff]
      intro d hd
      exact List.mem_rtakeWhile_imp (p := (· = quote)) hd
    have hne : closed ≠ [] := fun hnil => hquotes (hsplit ▸ hnil ▸ hrun)
    have hcolon : colon ∉ closed := fun hmem => hc (hsplit ▸ List.mem_append_left _ hmem)
    refine ⟨before, k, closed, run ++ after, ?_, hbefore, ?_, hk, ⟨hne, hcolon⟩, ?_⟩
    · rw [← hsplit, inlineText_eq, inlineText_eq]
      simp only [List.append_assoc, List.cons_append]
    · intro d hd
      exact (List.mem_append.mp hd).elim (hrun d) (hafter d)
    · intro hlast
      rw [List.getLast?_eq_some_getLast hne] at hlast
      exact List.rdropWhile_last_not _ c hne (decide_eq_true (Option.some.inj hlast))

/-! ### Strings of documents -/

lemma unicodeEscape_eq_cons (n : Nat) :
    Json.unicodeEscape n = CodePoint.ofChar '\\' :: CodePoint.ofChar 'u' :: Text.hex 4 n := rfl

lemma colon_notMem_unicodeEscape (n : Nat) : colon ∉ Json.unicodeEscape n := by
  have hdigit : ∀ m < 16, colon ≠ Text.hexDigit m := by decide
  have hlast : ∀ m, colon ≠ Text.hexDigit (m % 16) := fun m => hdigit _ (Nat.mod_lt m (by decide))
  have hslash : colon ≠ CodePoint.ofChar '\\' := by decide
  have hletter : colon ≠ CodePoint.ofChar 'u' := by decide
  simp [unicodeEscape_eq_cons, Text.hex, hslash, hletter, hlast]

lemma colon_of_mem_escapeChar {d : CodePoint} (h : colon ∈ Json.escapeChar d) : d = colon := by
  have hwritten := escapeChar_written d
  generalize Json.escapeChar d = w at hwritten h
  cases hwritten with
  | short e _ _ _ hread =>
    obtain hslash | hlast := List.mem_cons.mp h
    · exact absurd hslash (by decide)
    · obtain rfl := List.mem_singleton.mp hlast
      exact nomatch hread [] []
  | plain => exact (List.mem_singleton.mp h).symm
  | unit => exact absurd h (colon_notMem_unicodeEscape _)
  | pair =>
    rw [List.mem_append] at h
    exact h.elim (absurd · (colon_notMem_unicodeEscape _)) (absurd · (colon_notMem_unicodeEscape _))

/-- No character is written with quotes only: but for plain ones, there is a backslash. -/
lemma not_quotes_escapeChar (d : CodePoint) : ¬Quotes (Json.escapeChar d) := by
  intro h
  have hslash : CodePoint.ofChar '\\' ≠ quote := by decide
  have hwritten := escapeChar_written d
  generalize Json.escapeChar d = w at hwritten h
  cases hwritten with
  | short => exact hslash (h _ List.mem_cons_self)
  | plain hquote => exact hquote (h _ List.mem_cons_self)
  | unit => exact hslash (h _ List.mem_cons_self)
  | pair => exact hslash (h _ List.mem_cons_self)

lemma not_quotes_escaped (h : s ≠ []) : ¬Quotes (s.flatMap Json.escapeChar) := by
  obtain ⟨d, rest, rfl⟩ := List.exists_cons_of_ne_nil h
  intro hquotes
  refine not_quotes_escapeChar d ?_
  intro e he
  exact hquotes e (List.mem_flatMap.mpr ⟨d, List.mem_cons_self, he⟩)

lemma isPart_escaped (h : IsPart s) : IsPart (s.flatMap Json.escapeChar) := by
  refine ⟨?_, ?_⟩
  · intro hnil
    exact not_quotes_escaped h.1 (hnil ▸ nofun)
  · intro hmem
    obtain ⟨d, hd, hcolon⟩ := List.mem_flatMap.mp hmem
    exact h.2 (colon_of_mem_escapeChar hcolon ▸ hd)

/-- The mark is written as it is, and so is a colon. -/
lemma write_inlineText (k c : Text) :
    Json.write (.text (inlineText k c)) =
      [quote] ++ inlineText (k.flatMap Json.escapeChar) (c.flatMap Json.escapeChar) ++ [quote] := by
  have hmark : (Text.ofString "enc:AES256:").flatMap Json.escapeChar =
      Text.ofString "enc:AES256:" := by decide
  have hcolon : (Text.ofString ":").flatMap Json.escapeChar = Text.ofString ":" := by decide
  rw [Json.write, Json.writeText, inlineText, List.flatMap_append, List.flatMap_append,
    List.flatMap_append, hmark, hcolon]
  rfl

end

/-- A value counts as inline just when it is the inline text of two parts between two runs of
quotes. Whatever the text of two parts holds, it counts as inline as it stands unless its ciphertext
is nothing but quotes, and in any case as a string of a document. -/
theorem detected_between_quotes (v : Value) (k c : Text) :
    (∃ found, isInline v = .ok found) ∧
    (isInline v = .ok true ↔
      ∃ before keyId ciphertext after, Surrounds v before keyId ciphertext after) ∧
    ∀ s, format (.text k) (.text c) = .ok s →
      (isInline (.text s) = .ok true ↔ ¬Quotes c) ∧
      isInline (.text (Json.write (.text s))) = .ok true := by
  refine ⟨exists_isInline v, isInline_iff, ?_⟩
  intro s hs
  obtain ⟨htext, hk, hc⟩ := format_eq_ok_iff.mp hs
  obtain rfl := Value.text.inj htext
  have hone : Quotes [quote] := fun d hd => List.mem_singleton.mp hd
  refine ⟨?_, ?_⟩
  · have hnone : Quotes [] := nofun
    have hbare := isInline_between hnone hk hc.2 hnone
    rwa [List.nil_append, List.append_nil] at hbare
  · rw [write_inlineText]
    exact (isInline_between hone (isPart_escaped hk) (isPart_escaped hc).2 hone).mpr
      (not_quotes_escaped hc.1)

/-- A ciphertext that is a quote, after a key id that ends in a backslash: it is missed where it
stands bare and found in a document. -/
theorem lone_quote_is_found_in_document :
    let s : Text := "enc:AES256:a\\:\""
    format (.text "a\\") (.text "\"") = .ok s ∧ isInline (.text s) = .ok false ∧
      isInline (.text (Json.write (.text s))) = .ok true := by
  intro s
  have hformat : format (.text "a\\") (.text "\"") = .ok s := rfl
  have hquotes : Quotes "\"" := fun d hd => List.mem_singleton.mp hd
  obtain ⟨⟨found, hfound⟩, -, htexts⟩ := detected_between_quotes (.text s) "a\\" "\""
  obtain ⟨hbare, hdocument⟩ := htexts s hformat
  refine ⟨hformat, ?_, hdocument⟩
  cases found with
  | false => exact hfound
  | true => exact absurd hquotes (hbare.mp hfound)

end EnvelopeStore.Proofs
