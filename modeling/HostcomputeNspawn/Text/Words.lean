import Mathlib.Data.List.Basic
import Mathlib.Tactic.Common

/-!
# Words between separators

A text is split into words at the separators outside quotes, and the quotes go.  Every separator
counts, so two in a row have an empty word between them.

Joining words with separators is no inverse unless the words are plain.  For a text that starts
with words and a separator behind each, the splitter gives these words back if and only if none of
them has a separator or a quote in it.
-/

namespace Words

variable {α : Type} [DecidableEq α] (separator quote : α)

/-- The words of a text, entered inside or outside quotes. -/
def scan : Bool → List α → List (List α)
  | _, [] => [[]]
  | quoted, c :: cs =>
    if c = quote then scan (!quoted) cs
    else if c = separator ∧ quoted = false then [] :: scan quoted cs
    else (scan quoted cs).modifyHead (c :: ·)

/-- The words of a text. -/
def words (text : List α) : List (List α) := scan separator quote false text

/-- Neither a separator nor a quote occurs. -/
def Plain (word : List α) : Prop := separator ∉ word ∧ quote ∉ word

instance (word : List α) : Decidable (Plain separator quote word) :=
  inferInstanceAs (Decidable (_ ∧ _))

/-- The text is one word: its quotes are balanced, and every separator is inside them. -/
def oneWord : Bool → List α → Bool
  | quoted, [] => !quoted
  | quoted, c :: cs =>
    if c = quote then oneWord (!quoted) cs
    else !(c = separator ∧ quoted = false) && oneWord quoted cs

/-- The words with a separator behind each. -/
def terminated (pieces : List (List α)) : List α := pieces.flatMap (· ++ [separator])

variable {separator quote}

omit [DecidableEq α] in
theorem notMem_of_mem_modifyHead {a c : α} {pieces : List (List α)} (hc : a ≠ c)
    (hpieces : ∀ piece ∈ pieces, a ∉ piece) : ∀ piece ∈ pieces.modifyHead (c :: ·), a ∉ piece := by
  cases pieces with
  | nil => simp
  | cons first rest =>
    simp only [List.modifyHead_cons, List.forall_mem_cons] at hpieces ⊢
    exact ⟨List.not_mem_cons_of_ne_of_not_mem hc hpieces.1, hpieces.2⟩

theorem quote_notMem_scan {quoted : Bool} {text : List α} :
    ∀ word ∈ scan separator quote quoted text, quote ∉ word := by
  induction text generalizing quoted with
  | nil => simp [scan]
  | cons c cs ih =>
    rw [scan]
    split
    · exact ih
    · next hquote =>
      split
      · simpa using fun word hword ↦ ih word hword
      · exact notMem_of_mem_modifyHead (Ne.symm hquote) ih

/-- Without quotes every separator splits. -/
theorem words_of_quote_notMem {text : List α} (htext : quote ∉ text) :
    words separator quote text = text.splitOn separator := by
  unfold words
  induction text with
  | nil => rfl
  | cons c cs ih =>
    have hcs := List.not_mem_of_not_mem_cons htext
    have hc : c ≠ quote := (List.ne_of_not_mem_cons htext).symm
    rw [scan, if_neg hc, ih hcs, List.splitOn_cons_eq_if_modifyHead]
    simp

theorem separator_notMem_splitOn {text : List α} :
    ∀ word ∈ text.splitOn separator, separator ∉ word := by
  induction text with
  | nil => simp [List.splitOn_nil]
  | cons c cs ih =>
    rw [List.splitOn_cons_eq_if_modifyHead]
    split
    · simpa using fun word hword ↦ ih word hword
    · next hc => exact notMem_of_mem_modifyHead (fun h ↦ hc (by simp [h])) ih

/-- Behind text without quotes the splitter is outside quotes. -/
theorem words_append {front back : List α} (hne : separator ≠ quote) (hfront : quote ∉ front) :
    words separator quote (front ++ separator :: back) =
      front.splitOn separator ++ words separator quote back := by
  unfold words
  induction front with
  | nil => simp [scan, hne, List.splitOn_nil]
  | cons c cs ih =>
    have hcs := List.not_mem_of_not_mem_cons hfront
    have hsplit : cs.splitOn separator ≠ [] := List.splitOn_ne_nil _ _
    have hquote : c ≠ quote := (List.ne_of_not_mem_cons hfront).symm
    rw [List.cons_append, scan, if_neg hquote, ih hcs, List.splitOn_cons_eq_if_modifyHead]
    by_cases hc : c = separator
    · simp [hc]
    · cases hwords : cs.splitOn separator with
      | nil => exact absurd hwords hsplit
      | cons first rest => simp [hc]

/-- A first word comes back if and only if it is plain. -/
theorem words_append_eq_cons {word back : List α} {rest : List (List α)}
    (hne : separator ≠ quote) :
    words separator quote (word ++ separator :: back) = word :: rest ↔
      Plain separator quote word ∧ words separator quote back = rest := by
  constructor
  · intro heq
    have hquote : quote ∉ word := quote_notMem_scan word (heq ▸ List.mem_cons_self)
    rw [words_append hne hquote] at heq
    obtain ⟨first, others, hsplit⟩ := List.exists_cons_of_ne_nil
      (List.splitOn_ne_nil separator word)
    have hfirst : first = word := by
      rw [hsplit] at heq
      exact (List.cons.inj heq).1
    have hseparator : separator ∉ word :=
      hfirst ▸ separator_notMem_splitOn first (hsplit ▸ List.mem_cons_self)
    rw [List.splitOn_eq_singleton hseparator] at heq
    exact ⟨⟨hseparator, hquote⟩, (List.cons.inj heq).2⟩
  · rintro ⟨⟨hseparator, hquote⟩, rfl⟩
    rw [words_append hne hquote, List.splitOn_eq_singleton hseparator]
    rfl

/-- First words come back if and only if they are plain. -/
theorem words_terminated_append {pieces rest : List (List α)} {back : List α}
    (hne : separator ≠ quote) :
    words separator quote (terminated separator pieces ++ back) = pieces ++ rest ↔
      (∀ piece ∈ pieces, Plain separator quote piece) ∧ words separator quote back = rest := by
  induction pieces with
  | nil => simp [terminated]
  | cons piece pieces ih =>
    have htext : terminated separator (piece :: pieces) ++ back =
        piece ++ separator :: (terminated separator pieces ++ back) := by
      simp [terminated]
    calc words separator quote (terminated separator (piece :: pieces) ++ back) =
          piece :: pieces ++ rest
      _ ↔ words separator quote (piece ++ separator :: (terminated separator pieces ++ back)) =
          piece :: (pieces ++ rest) := by rw [htext, List.cons_append]
      _ ↔ Plain separator quote piece ∧
          words separator quote (terminated separator pieces ++ back) = pieces ++ rest :=
        words_append_eq_cons hne
      _ ↔ (∀ piece' ∈ piece :: pieces, Plain separator quote piece') ∧
          words separator quote back = rest := by rw [ih, List.forall_mem_cons, and_assoc]

/-! ## A last word in front of a known one -/

/-- Nothing but the quotes is lost: a separator is kept in a word, or it adds a word. -/
theorem length_scan (separator quote : α) (quoted : Bool) (text : List α) :
    (scan separator quote quoted text).flatten.length +
      (scan separator quote quoted text).length = (text.filter (· ≠ quote)).length + 1 := by
  induction text generalizing quoted with
  | nil => rfl
  | cons c cs ih =>
    rw [scan]
    split
    · next hquote => simpa [hquote] using ih (!quoted)
    · next hquote =>
      have hcs := ih quoted
      rw [List.filter_cons_of_pos (by simpa using hquote), List.length_cons]
      split
      · rw [List.flatten_cons, List.nil_append, List.length_cons]
        omega
      · cases hscan : scan separator quote quoted cs with
        | nil => simp [hscan] at hcs
        | cons first rest =>
          rw [hscan] at hcs
          simp only [List.modifyHead_cons, List.flatten_cons, List.length_append,
            List.length_cons] at hcs ⊢
          omega

theorem length_lt_of_filter (text : List α) {last : List α} (hne : separator ≠ quote)
    (hlast : quote ∉ last) :
    last.length < ((text ++ separator :: last).filter (· ≠ quote)).length := by
  have hkept : last.filter (· ≠ quote) = last :=
    List.filter_eq_self.mpr fun c hc ↦ decide_eq_true fun h ↦ hlast (h ▸ hc)
  rw [List.filter_append, List.length_append, List.filter_cons_of_pos (by simpa using hne), hkept,
    List.length_cons]
  omega

omit [DecidableEq α] in
theorem exists_modifyHead_eq_pair {c : α} {last : List α} {pieces : List (List α)} :
    (∃ word, pieces.modifyHead (c :: ·) = [word, last]) ↔ ∃ word, pieces = [word, last] := by
  cases pieces with
  | nil => simp
  | cons first rest => simp

/-- A text and a separator in front of a plain word are two words if and only if the text is one. -/
theorem scan_append_eq_pair {quoted : Bool} {text last : List α} (hne : separator ≠ quote)
    (hlast : Plain separator quote last) :
    (∃ word, scan separator quote quoted (text ++ separator :: last) = [word, last]) ↔
      oneWord separator quote quoted text = true := by
  induction text generalizing quoted with
  | nil =>
    cases quoted with
    | false =>
      have hscan : scan separator quote false last = [last] := by
        rw [← words, words_of_quote_notMem hlast.2, List.splitOn_eq_singleton hlast.1]
      simp [scan, hne, hscan, oneWord]
    | true =>
      -- the separator is inside quotes, and the known word alone would be all of the rest
      have hlength := length_scan separator quote true last
      have hkept := List.length_filter_le (· ≠ quote) last
      have hpair (word : List α) : scan separator quote true last ≠ [word, last] := by
        intro hscan
        rw [hscan] at hlength
        simp only [List.flatten_cons, List.flatten_nil, List.append_nil, List.length_append,
          List.length_cons, List.length_nil] at hlength
        omega
      rw [List.nil_append, scan, if_neg hne, if_neg (by simp), exists_modifyHead_eq_pair]
      simp [hpair, oneWord]
  | cons c cs ih =>
    rw [List.cons_append, scan, oneWord]
    split
    · exact ih
    split
    · next hseparator =>
      -- the rest is longer than the known word
      have hlength := length_scan separator quote quoted (cs ++ separator :: last)
      have hlt := length_lt_of_filter cs hne hlast.2
      have hrest : scan separator quote quoted (cs ++ separator :: last) ≠ [last] := by
        intro hscan
        rw [hscan] at hlength
        simp only [List.flatten_cons, List.flatten_nil, List.append_nil, List.length_cons,
          List.length_nil] at hlength
        omega
      simpa [hseparator.1, hseparator.2] using hrest
    · next hseparator =>
      rw [exists_modifyHead_eq_pair, ih]
      simp [hseparator]

end Words
