/-
# The grammar of JSON texts

Which lists of characters are JSON texts, and which documents they denote, as relations between a
text, a document and the rest behind it.  Strings are given by the characters that they stand for.

* `body_plain_iff` : a string without quotes, backslashes and control characters stands for itself;
* `Body.plain_of_self` : and only such a string does, where a comma and a quote stand behind it;
* `value_obj_iff`, `elements_cons_iff`, `members_num_iff`, .. : what a text that has been put
  together from its parts denotes.
-/
import Mathlib

namespace JsonGrammar

/-- A document. -/
inductive Doc where
  | null
  | bool (b : Bool)
  /-- A number, as it is written. -/
  | num (digits : List Char)
  | str (s : List Char)
  | arr (xs : List Doc)
  | obj (members : List (List Char × Doc))

/-! ## White space, numbers and strings -/

/-- White space between the tokens. -/
def isSpace (c : Char) : Bool := c = ' ' || c = '\t' || c = '\n' || c = '\r'

/-- The text behind white space. -/
def skip (text : List Char) : List Char := text.dropWhile isSpace

/-- Only blanks are skipped. -/
theorem skip_cons {c : Char} (h : isSpace c = false) (text : List Char) :
    skip (c :: text) = c :: text := by
  rw [skip, List.dropWhile_cons, h]
  rfl

/-- One digit or more. -/
def Digits (ds : List Char) : Prop := ds ≠ [] ∧ ∀ d ∈ ds, d.isDigit = true

/-- A number: a sign, an integer part without leading zeros, a fraction and an exponent. -/
def Number (n : List Char) : Prop :=
  ∃ sign int frac exp, n = sign ++ int ++ frac ++ exp ∧ (sign = [] ∨ sign = ['-']) ∧
    Digits int ∧ (int.head? = some '0' → int = ['0']) ∧
    (frac = [] ∨ ∃ ds, frac = '.' :: ds ∧ Digits ds) ∧
    (exp = [] ∨ ∃ e s ds, exp = e :: s ++ ds ∧ (e = 'e' ∨ e = 'E') ∧
      (s = [] ∨ s = ['+'] ∨ s = ['-']) ∧ Digits ds)

/-- A character that stands for itself in a string. -/
def isPlain (c : Char) : Bool := c ≠ '"' && c ≠ '\\' && 0x20 ≤ c.toNat

/-- The value of a hexadecimal digit. -/
def hexDigit? (c : Char) : Option ℕ :=
  if c.isDigit then some (c.toNat - '0'.toNat)
  else if 'a' ≤ c ∧ c ≤ 'f' then some (c.toNat - 'a'.toNat + 10)
  else if 'A' ≤ c ∧ c ≤ 'F' then some (c.toNat - 'A'.toNat + 10)
  else none

/-- Four hexadecimal digits. -/
def Hex (ds : List Char) (n : ℕ) : Prop :=
  ∃ a b c d, ds.map hexDigit? = [some a, some b, some c, some d] ∧
    n = 0x1000 * a + 0x100 * b + 0x10 * c + d

/-- What stands behind a backslash, and the character that it stands for. -/
inductive Escape : List Char → Char → Prop
  | quote : Escape ['"'] '"'
  | backslash : Escape ['\\'] '\\'
  | slash : Escape ['/'] '/'
  | b : Escape ['b'] '\x08'
  | f : Escape ['f'] '\x0c'
  | n : Escape ['n'] '\n'
  | r : Escape ['r'] '\r'
  | t : Escape ['t'] '\t'
  | unicode {ds : List Char} {n : ℕ} (digits : Hex ds n) (valid : n.isValidChar) :
      Escape ('u' :: ds) (Char.ofNat n)
  /-- A character beyond the first plane, by two surrogates. -/
  | pair {hi lo : List Char} {h l : ℕ} (high : Hex hi h) (low : Hex lo l)
      (hhigh : 0xd800 ≤ h ∧ h < 0xdc00) (hlow : 0xdc00 ≤ l ∧ l < 0xe000) :
      Escape ('u' :: hi ++ '\\' :: 'u' :: lo)
        (Char.ofNat (0x10000 + 0x400 * (h - 0xd800) + (l - 0xdc00)))

/-- The text behind an opening quote, up to the closing one: the string and the rest. -/
inductive Body : List Char → List Char → List Char → Prop
  | close (rest : List Char) : Body ('"' :: rest) [] rest
  | plain {c : Char} {text s rest : List Char} (hc : isPlain c = true) (hbody : Body text s rest) :
      Body (c :: text) (c :: s) rest
  | escape {e text text' s rest : List Char} {c : Char} (hc : Escape e c)
      (htext : text' = e ++ text) (hbody : Body text s rest) : Body ('\\' :: text') (c :: s) rest

/-! ## Documents -/

mutual

/-- A text that begins with a document, the document, and the rest of the text. -/
inductive Value : List Char → Doc → List Char → Prop
  | null {text rest : List Char} (h : text = 'n' :: 'u' :: 'l' :: 'l' :: rest) :
      Value text .null rest
  | true {text rest : List Char} (h : text = 't' :: 'r' :: 'u' :: 'e' :: rest) :
      Value text (.bool Bool.true) rest
  | false {text rest : List Char} (h : text = 'f' :: 'a' :: 'l' :: 's' :: 'e' :: rest) :
      Value text (.bool Bool.false) rest
  | num {text n rest : List Char} (hn : Number n) (h : text = n ++ rest) : Value text (.num n) rest
  | str {text s rest : List Char} (h : Body text s rest) : Value ('"' :: text) (.str s) rest
  | nilArr {text rest : List Char} (h : skip text = ']' :: rest) : Value ('[' :: text) (.arr []) rest
  | arr {text rest : List Char} {xs : List Doc} (h : Elements text xs rest) :
      Value ('[' :: text) (.arr xs) rest
  | nilObj {text rest : List Char} (h : skip text = '}' :: rest) : Value ('{' :: text) (.obj []) rest
  | obj {text rest : List Char} {members : List (List Char × Doc)} (h : Members text members rest) :
      Value ('{' :: text) (.obj members) rest

/-- The elements of an array up to its closing bracket. -/
inductive Elements : List Char → List Doc → List Char → Prop
  | last {text text' rest : List Char} {x : Doc} (hx : Value (skip text) x text')
      (h : skip text' = ']' :: rest) : Elements text [x] rest
  | cons {text text' text'' rest : List Char} {x : Doc} {xs : List Doc}
      (hx : Value (skip text) x text') (h : skip text' = ',' :: text'')
      (hxs : Elements text'' xs rest) : Elements text (x :: xs) rest

/-- The members of an object up to its closing brace. -/
inductive Members : List Char → List (List Char × Doc) → List Char → Prop
  | last {text text1 text2 text3 text4 rest key : List Char} {v : Doc}
      (hopen : skip text = '"' :: text1) (hkey : Body text1 key text2)
      (hcolon : skip text2 = ':' :: text3) (hv : Value (skip text3) v text4)
      (h : skip text4 = '}' :: rest) : Members text [(key, v)] rest
  | cons {text text1 text2 text3 text4 text5 rest key : List Char} {v : Doc}
      {members : List (List Char × Doc)}
      (hopen : skip text = '"' :: text1) (hkey : Body text1 key text2)
      (hcolon : skip text2 = ':' :: text3) (hv : Value (skip text3) v text4)
      (h : skip text4 = ',' :: text5) (hmembers : Members text5 members rest) :
      Members text ((key, v) :: members) rest

end

/-- A JSON text denotes a document. -/
def Denotes (text : List Char) (doc : Doc) : Prop :=
  ∃ rest, Value (skip text) doc rest ∧ skip rest = []

/-- The members of an object have one value under a key. -/
def OnlyValue (members : List (List Char × Doc)) (key : List Char) (v : Doc) : Prop :=
  ∀ w, (key, w) ∈ members ↔ w = v

/-! ## Strings -/

/-- A string without quotes, backslashes and control characters stands for itself. -/
theorem body_plain_iff {p text s rest : List Char} (hp : ∀ c ∈ p, isPlain c = true) :
    Body (p ++ '"' :: text) s rest ↔ s = p ∧ rest = text := by
  induction p generalizing s with
  | nil =>
      constructor
      · intro h
        cases h with
        | close => exact ⟨rfl, rfl⟩
        | plain hc _ => exact absurd hc (by decide)
      · rintro ⟨rfl, rfl⟩
        exact .close _
  | cons c p ih =>
      have hc := hp c List.mem_cons_self
      have hp' : ∀ c ∈ p, isPlain c = true := fun c hc => hp c (List.mem_cons_of_mem _ hc)
      constructor
      · intro h
        cases h with
        | close => exact absurd hc (by decide)
        | plain _ hbody =>
            obtain ⟨rfl, rfl⟩ := (ih hp').mp hbody
            exact ⟨rfl, rfl⟩
        | escape _ _ _ => exact absurd hc (by decide)
      · rintro ⟨rfl, rfl⟩
        exact .plain hc ((ih hp').mpr ⟨rfl, rfl⟩)

/-- Hexadecimal digits contain no quote. -/
theorem Hex.quote_notMem {ds : List Char} {n : ℕ} (h : Hex ds n) : '"' ∉ ds := by
  obtain ⟨a, b, c, d, hds, -⟩ := h
  intro hmem
  have hnone : hexDigit? '"' ∈ ds.map hexDigit? := List.mem_map_of_mem hmem
  have hvalue : hexDigit? '"' = none := by decide
  rw [hds, hvalue] at hnone
  simp at hnone

/-- Only the escaped quote has a quote in it. -/
theorem Escape.eq_quote {e : List Char} {c : Char} (h : Escape e c) (hmem : '"' ∈ e) : e = ['"'] := by
  cases h with
  | quote => rfl
  | unicode digits _ =>
      rcases List.mem_cons.mp hmem with hu | hds
      · cases hu
      · exact absurd hds digits.quote_notMem
  | pair high low _ _ =>
      rw [List.cons_append, List.mem_cons, List.mem_append, List.mem_cons, List.mem_cons] at hmem
      rcases hmem with hu | hhi | hu | hu | hlo
      · cases hu
      · exact absurd hhi high.quote_notMem
      · cases hu
      · cases hu
      · exact absurd hlo low.quote_notMem
  | _ => exact absurd hmem (by decide)

/-- An escape has at least one character. -/
theorem Escape.length_pos {e : List Char} {c : Char} (h : Escape e c) : 0 < e.length := by
  cases h with
  | _ => simp

/-- An escape at the end of a string, in front of a quote, a comma and another quote: it ends with
the string, or it is a backslash and takes the quote. -/
theorem escape_at_end {p q text text' s rest : List Char} {c : Char} (hc : Escape (p ++ q) c)
    (htext : q ++ text' = '"' :: ',' :: '"' :: text) (hbody : Body text' s rest) :
    (c :: s).length < ('\\' :: p).length ∨
      ∃ p' s', '\\' :: p = p' ++ ['\\'] ∧ c :: s = s' ++ [','] := by
  cases q with
  | nil =>
      rw [List.nil_append] at htext
      rw [htext] at hbody
      cases hbody with
      | close =>
          have hpos := hc.length_pos
          rw [List.append_nil] at hpos
          exact Or.inl (by simpa using hpos)
      | plain hc _ => exact absurd hc (by decide)
  | cons d q =>
      rw [List.cons_append, List.cons.injEq] at htext
      obtain ⟨rfl, htext⟩ := htext
      have hquote := hc.eq_quote (List.mem_append_right _ List.mem_cons_self)
      have hlength := congrArg List.length hquote
      rw [List.length_append, List.length_cons, List.length_singleton] at hlength
      obtain rfl : p = [] := List.length_eq_zero_iff.mp (by omega)
      obtain rfl : q = [] := List.length_eq_zero_iff.mp (by omega)
      rw [List.nil_append] at htext
      rw [htext] at hbody
      cases hbody with
      | plain _ hbody =>
          cases hbody with
          | close => exact Or.inr ⟨[], [_], rfl, rfl⟩
          | plain hc _ => exact absurd hc (by decide)

/-- A string in front of a quote, a comma and another quote: it stands for itself, or for less
characters than it has, or a backslash at its end takes the quote and the string ends behind the
comma. -/
theorem body_overlap (k : ℕ) : ∀ {p text s rest : List Char}, p.length ≤ k →
    Body (p ++ '"' :: ',' :: '"' :: text) s rest →
    ((∀ c ∈ p, isPlain c = true) ∧ s = p) ∨ s.length < p.length ∨
      ∃ p' s', p = p' ++ ['\\'] ∧ s = s' ++ [','] := by
  induction k with
  | zero =>
      intro p text s rest hk h
      have hp : p = [] := List.length_eq_zero_iff.mp (by omega)
      subst hp
      cases h with
      | close => exact Or.inl ⟨by simp, rfl⟩
      | plain hc _ => exact absurd hc (by decide)
  | succ k ih =>
      intro p text s rest hk h
      cases p with
      | nil =>
          cases h with
          | close => exact Or.inl ⟨by simp, rfl⟩
          | plain hc _ => exact absurd hc (by decide)
      | cons c p =>
          rw [List.length_cons] at hk
          cases h with
          | close => exact Or.inr (Or.inl (by simp))
          | plain hc hbody =>
              rcases ih (by omega) hbody with ⟨hp, rfl⟩ | hlt | ⟨p', s', rfl, rfl⟩
              · refine Or.inl ⟨?_, rfl⟩
                intro c' hc'
                rcases List.mem_cons.mp hc' with rfl | hc'
                · exact hc
                · exact hp c' hc'
              · refine Or.inr (Or.inl ?_)
                rw [List.length_cons, List.length_cons]
                omega
              · exact Or.inr (Or.inr ⟨c :: p', c :: s', rfl, rfl⟩)
          | escape hc htext hbody =>
              have hpos := hc.length_pos
              rcases List.append_eq_append_iff.mp htext with ⟨q, rfl, hrest⟩ | ⟨q, rfl, rfl⟩
              · exact Or.inr (escape_at_end hc hrest.symm hbody)
              · rw [List.length_append] at hk
                rcases ih (by omega) hbody with ⟨hp, rfl⟩ | hlt | ⟨p', s', rfl, rfl⟩
                · refine Or.inr (Or.inl ?_)
                  rw [List.length_cons, List.length_cons, List.length_append]
                  omega
                · refine Or.inr (Or.inl ?_)
                  rw [List.length_cons, List.length_cons, List.length_append]
                  omega
                · exact Or.inr (Or.inr ⟨_ :: _ ++ p', _ :: s', by
                    rw [List.cons_append, List.cons_append, List.append_assoc], rfl⟩)

/-- Only a string without quotes, backslashes and control characters stands for itself, where a
comma and a quote stand behind it. -/
theorem Body.plain_of_self {p text rest : List Char}
    (h : Body (p ++ '"' :: ',' :: '"' :: text) p rest) : ∀ c ∈ p, isPlain c = true := by
  rcases body_overlap p.length le_rfl h with ⟨hp, -⟩ | hlt | ⟨p', s', hp, hs⟩
  · exact hp
  · omega
  · rw [hp] at hs
    have hlast := (List.append_inj' hs rfl).2
    simp at hlast

/-! ## Numbers -/

/-- A character of a number. -/
def isNumberChar (c : Char) : Bool :=
  c.isDigit || c = '-' || c = '+' || c = '.' || c = 'e' || c = 'E'

/-- Digits can stand in a number. -/
theorem Digits.isNumberChar {ds : List Char} (h : Digits ds) :
    ∀ c ∈ ds, isNumberChar c = true := by
  intro c hc
  rw [JsonGrammar.isNumberChar, h.2 c hc]
  rfl

/-- So can everything else that a number is written with. -/
theorem Number.isNumberChar {n : List Char} (h : Number n) :
    ∀ c ∈ n, isNumberChar c = true := by
  obtain ⟨sign, int, frac, exp, rfl, hsign, hint, -, hfrac, hexp⟩ := h
  intro c hc
  simp only [List.mem_append] at hc
  rcases hc with ((hc | hc) | hc) | hc
  · rcases hsign with rfl | rfl
    · cases hc
    · rw [List.mem_singleton.mp hc]
      rfl
  · exact hint.isNumberChar c hc
  · rcases hfrac with rfl | ⟨ds, rfl, hds⟩
    · cases hc
    · rcases List.mem_cons.mp hc with rfl | hc
      · rfl
      · exact hds.isNumberChar c hc
  · rcases hexp with rfl | ⟨e, s, ds, rfl, he, hs, hds⟩
    · cases hc
    · rw [List.cons_append, List.mem_cons, List.mem_append] at hc
      rcases hc with rfl | hc | hc
      · rcases he with rfl | rfl
        · rfl
        · rfl
      · rcases hs with rfl | rfl | rfl
        · cases hc
        · rw [List.mem_singleton.mp hc]
          rfl
        · rw [List.mem_singleton.mp hc]
          rfl
      · exact hds.isNumberChar c hc

/-- A number begins with a digit, or with a sign and a digit. -/
theorem Number.head {n : List Char} (h : Number n) :
    ∃ d text, d.isDigit = true ∧ (n = d :: text ∨ n = '-' :: d :: text) := by
  obtain ⟨sign, int, frac, exp, rfl, hsign, ⟨hne, hint⟩, -⟩ := h
  obtain ⟨d, ds, rfl⟩ := List.exists_cons_of_ne_nil hne
  refine ⟨d, ds ++ frac ++ exp, hint d List.mem_cons_self, ?_⟩
  rcases hsign with rfl | rfl
  · exact Or.inl rfl
  · exact Or.inr rfl

/-- A text that begins with another character does not begin with a number. -/
theorem Number.ne_cons {n text rest : List Char} {c : Char} (h : Number n)
    (hc : JsonGrammar.isNumberChar c = false) : c :: text ≠ n ++ rest := by
  obtain ⟨d, t, -, hn⟩ := h.head
  have hne : n ≠ [] := by
    rcases hn with rfl | rfl
    · exact List.cons_ne_nil _ _
    · exact List.cons_ne_nil _ _
  obtain ⟨a, t', rfl⟩ := List.exists_cons_of_ne_nil hne
  intro htext
  obtain ⟨rfl, -⟩ := List.cons.inj htext
  rw [h.isNumberChar c List.mem_cons_self] at hc
  cases hc

/-- No character of a number is a blank. -/
theorem isSpace_of_isNumberChar {c : Char} (h : isNumberChar c = true) : isSpace c = false := by
  rw [Bool.eq_false_iff]
  intro hspace
  simp only [isSpace, Bool.or_eq_true, decide_eq_true_eq] at hspace
  rcases hspace with ((rfl | rfl) | rfl) | rfl
  · cases h
  · cases h
  · cases h
  · cases h

/-- A number ends where another token follows. -/
theorem number_split {n m text rest rest' : List Char} {c d : Char} (hn : Number n)
    (hm : Number m) (hc : isNumberChar c = false) (h : n ++ c :: text = m ++ rest)
    (hrest : skip rest = d :: rest') (hd : isNumberChar d = false) : m = n ∧ rest = c :: text := by
  rcases List.append_eq_append_iff.mp h with ⟨q, rfl, hq⟩ | ⟨q, rfl, rfl⟩
  · cases q with
    | nil => exact ⟨List.append_nil n, hq.symm⟩
    | cons e q =>
        -- the number read would take the token behind
        obtain ⟨rfl, -⟩ := List.cons.inj hq
        rw [hm.isNumberChar c (List.mem_append_right _ List.mem_cons_self)] at hc
        cases hc
  · cases q with
    | nil => exact ⟨(List.append_nil m).symm, rfl⟩
    | cons e q =>
        -- the number read would leave a character of the number
        have he := hn.isNumberChar e (List.mem_append_right _ List.mem_cons_self)
        rw [List.cons_append, skip_cons (isSpace_of_isNumberChar he)] at hrest
        obtain ⟨rfl, -⟩ := List.cons.inj hrest
        rw [he] at hd
        cases hd

/-- A number in front of another token. -/
theorem value_num_iff {n text rest rest' : List Char} {c d : Char} {v : Doc} (hn : Number n)
    (hc : isNumberChar c = false) (hd : isNumberChar d = false) :
    (Value (n ++ c :: text) v rest ∧ skip rest = d :: rest')
      ↔ v = .num n ∧ rest = c :: text ∧ skip (c :: text) = d :: rest' := by
  constructor
  · rintro ⟨h, hrest⟩
    have hnum : ∃ m, v = .num m ∧ Number m ∧ n ++ c :: text = m ++ rest := by
      obtain ⟨a, t, ha, rfl | rfl⟩ := hn.head
      · cases h with
        | num hm htext => exact ⟨_, rfl, hm, htext⟩
        | null htext => obtain ⟨rfl, -⟩ := List.cons.inj htext; cases ha
        | true htext => obtain ⟨rfl, -⟩ := List.cons.inj htext; cases ha
        | false htext => obtain ⟨rfl, -⟩ := List.cons.inj htext; cases ha
        | _ => cases ha
      · cases h with
        | num hm htext => exact ⟨_, rfl, hm, htext⟩
        | null htext => cases htext
        | true htext => cases htext
        | false htext => cases htext
    obtain ⟨m, rfl, hm, htext⟩ := hnum
    obtain ⟨rfl, rfl⟩ := number_split hn hm hc htext hrest hd
    exact ⟨rfl, rfl, hrest⟩
  · rintro ⟨rfl, rfl, hrest⟩
    exact ⟨.num hn rfl, hrest⟩

/-- A text that no document begins. -/
def Unreadable (n : List Char) : Prop := ∀ text v rest, ¬ Value (skip (n ++ text)) v rest

/-- No document begins with these letters. -/
theorem not_value_of_letter {c : Char} {text rest : List Char} {v : Doc} (hc : c = 'i' ∨ c = 'n')
    (htext : text.head? ≠ some 'u') : ¬ Value (c :: text) v rest := by
  intro h
  rcases hc with rfl | rfl
  · cases h with
    | num hn heq => exact absurd heq (hn.ne_cons rfl)
    | null heq => cases heq
    | true heq => cases heq
    | false heq => cases heq
  · cases h with
    | num hn heq => exact absurd heq (hn.ne_cons rfl)
    | null heq =>
        cases heq
        exact htext rfl
    | true heq => cases heq
    | false heq => cases heq

/-- Nor with a sign and one of these letters. -/
theorem not_value_of_sign {c : Char} {text rest : List Char} {v : Doc} (hc : c = 'i' ∨ c = 'n') :
    ¬ Value ('-' :: c :: text) v rest := by
  intro h
  cases h with
  | num hn heq =>
      obtain ⟨d, t, hd, rfl | rfl⟩ := hn.head
      · obtain ⟨rfl, -⟩ := List.cons.inj heq
        cases hd
      · obtain ⟨-, heq⟩ := List.cons.inj heq
        obtain ⟨rfl, -⟩ := List.cons.inj heq
        rcases hc with rfl | rfl
        · cases hd
        · cases hd
  | null heq => cases heq
  | true heq => cases heq
  | false heq => cases heq

/-- What is written for a number that is not finite. -/
theorem unreadable_of_not_finite {n : List Char}
    (hn : n ∈ ["inf".toList, "-inf".toList, "nan".toList, "-nan".toList]) : Unreadable n := by
  intro text v rest
  simp only [List.mem_cons, List.not_mem_nil, or_false] at hn
  rcases hn with rfl | rfl | rfl | rfl
  · show ¬ Value ('i' :: 'n' :: 'f' :: text) v rest
    exact not_value_of_letter (Or.inl rfl) (by simp)
  · exact not_value_of_sign (Or.inl rfl)
  · show ¬ Value ('n' :: 'a' :: 'n' :: text) v rest
    exact not_value_of_letter (Or.inr rfl) (by simp)
  · exact not_value_of_sign (Or.inr rfl)

/-- In front of a number nothing is skipped. -/
theorem Number.skip {n : List Char} (h : Number n) (text : List Char) :
    skip (n ++ text) = n ++ text := by
  obtain ⟨d, t, hd, rfl | rfl⟩ := h.head
  · have hd' : JsonGrammar.isNumberChar d = true := by
      rw [JsonGrammar.isNumberChar, hd]
      rfl
    exact skip_cons (isSpace_of_isNumberChar hd') _
  · exact skip_cons rfl _

/-- A text that no value can be read from is no number. -/
theorem Unreadable.not_number {n : List Char} (h : Unreadable n) : ¬ Number n := by
  intro hn
  apply h [] (.num n) []
  rw [hn.skip]
  exact .num hn rfl

/-! ## Objects and arrays -/

/-- What follows a member of an object: the closing brace, or a comma and the other members. -/
def MembersTail (text : List Char) (ms : List (List Char × Doc)) (rest : List Char) : Prop :=
  (skip text = '}' :: rest ∧ ms = []) ∨ ∃ text', skip text = ',' :: text' ∧ Members text' ms rest

/-- What follows an element of an array. -/
def ElementsTail (text : List Char) (xs : List Doc) (rest : List Char) : Prop :=
  (skip text = ']' :: rest ∧ xs = []) ∨ ∃ text', skip text = ',' :: text' ∧ Elements text' xs rest

section Iff

variable {text rest key s : List Char} {v : Doc} {xs : List Doc} {ms : List (List Char × Doc)}

/-- Behind a quote a value is a text. -/
theorem value_str_iff : Value ('"' :: text) v rest ↔ ∃ s, v = .str s ∧ Body text s rest := by
  constructor
  · intro h
    cases h with
    | num hn htext => exact absurd htext (hn.ne_cons rfl)
    | str hbody => exact ⟨_, rfl, hbody⟩
    | null htext => cases htext
    | true htext => cases htext
    | false htext => cases htext
  · rintro ⟨s, rfl, hbody⟩
    exact .str hbody

/-- No value begins with a closing bracket. -/
theorem not_value_bracket : ¬ Value (skip (']' :: text)) v rest := by
  rw [skip_cons rfl]
  intro h
  cases h with
  | num hn htext => exact absurd htext (hn.ne_cons rfl)
  | null htext => cases htext
  | true htext => cases htext
  | false htext => cases htext

/-- An object with members. -/
theorem value_obj_iff :
    Value ('{' :: '"' :: text) v rest ↔ ∃ ms, v = .obj ms ∧ Members ('"' :: text) ms rest := by
  constructor
  · intro h
    cases h with
    | num hn htext => exact absurd htext (hn.ne_cons rfl)
    | obj hms => exact ⟨_, rfl, hms⟩
    | nilObj hnil => cases hnil
    | null htext => cases htext
    | true htext => cases htext
    | false htext => cases htext
  · rintro ⟨ms, rfl, hms⟩
    exact .obj hms

/-- A member under a key without escapes. -/
theorem members_iff (hkey : ∀ c ∈ key, isPlain c = true) :
    Members ('"' :: (key ++ '"' :: ':' :: text)) ms rest ↔
      ∃ v text' ms', Value (skip text) v text' ∧ ms = (key, v) :: ms'
        ∧ MembersTail text' ms' rest := by
  have hopen : skip ('"' :: (key ++ '"' :: ':' :: text)) = '"' :: (key ++ '"' :: ':' :: text) :=
    skip_cons rfl _
  have hcolon : skip (':' :: text) = ':' :: text := skip_cons rfl _
  constructor
  · intro h
    cases h with
    | last h1 h2 h3 hv h4 =>
        rw [hopen] at h1
        obtain ⟨-, rfl⟩ := List.cons.inj h1
        obtain ⟨rfl, rfl⟩ := (body_plain_iff hkey).mp h2
        rw [hcolon] at h3
        obtain ⟨-, rfl⟩ := List.cons.inj h3
        exact ⟨_, _, [], hv, rfl, Or.inl ⟨h4, rfl⟩⟩
    | cons h1 h2 h3 hv h4 hms =>
        rw [hopen] at h1
        obtain ⟨-, rfl⟩ := List.cons.inj h1
        obtain ⟨rfl, rfl⟩ := (body_plain_iff hkey).mp h2
        rw [hcolon] at h3
        obtain ⟨-, rfl⟩ := List.cons.inj h3
        exact ⟨_, _, _, hv, rfl, Or.inr ⟨_, h4, hms⟩⟩
  · rintro ⟨v, text', ms', hv, rfl, ⟨h, rfl⟩ | ⟨text'', h, hms⟩⟩
    · exact .last hopen ((body_plain_iff hkey).mpr ⟨rfl, rfl⟩) hcolon hv h
    · exact .cons hopen ((body_plain_iff hkey).mpr ⟨rfl, rfl⟩) hcolon hv h hms

/-- With a closing brace the members are at their end. -/
theorem membersTail_close_iff :
    MembersTail ('}' :: text) ms rest ↔ ms = [] ∧ rest = text := by
  rw [MembersTail, skip_cons rfl]
  constructor
  · rintro (⟨h, rfl⟩ | ⟨text', h, -⟩)
    · cases h
      exact ⟨rfl, rfl⟩
    · cases h
  · rintro ⟨rfl, rfl⟩
    exact Or.inl ⟨rfl, rfl⟩

/-- Behind a comma there are further members. -/
theorem membersTail_comma_iff : MembersTail (',' :: text) ms rest ↔ Members text ms rest := by
  rw [MembersTail, skip_cons rfl]
  constructor
  · rintro (⟨h, -⟩ | ⟨text', h, hms⟩)
    · cases h
    · cases h
      exact hms
  · exact fun hms => Or.inr ⟨text, rfl, hms⟩

/-- Elements are a value and what follows it. -/
theorem elements_iff : Elements text xs rest ↔
    ∃ x text' xs', Value (skip text) x text' ∧ xs = x :: xs' ∧ ElementsTail text' xs' rest := by
  constructor
  · intro h
    cases h with
    | last hx h => exact ⟨_, _, [], hx, rfl, Or.inl ⟨h, rfl⟩⟩
    | cons hx h hxs => exact ⟨_, _, _, hx, rfl, Or.inr ⟨_, h, hxs⟩⟩
  · rintro ⟨x, text', xs', hx, rfl, ⟨h, rfl⟩ | ⟨text'', h, hxs⟩⟩
    · exact .last hx h
    · exact .cons hx h hxs

/-- An array without elements. -/
theorem value_nilArr_iff : Value ('[' :: ']' :: text) v rest ↔ v = .arr [] ∧ rest = text := by
  constructor
  · intro h
    cases h with
    | num hn htext => exact absurd htext (hn.ne_cons rfl)
    | nilArr h =>
        rw [skip_cons rfl] at h
        cases h
        exact ⟨rfl, rfl⟩
    | arr h =>
        obtain ⟨x, text', xs', hx, -⟩ := elements_iff.mp h
        exact absurd hx not_value_bracket
    | null htext => cases htext
    | true htext => cases htext
    | false htext => cases htext
  · rintro ⟨rfl, rfl⟩
    exact .nilArr (skip_cons rfl _)

/-- An array whose first element is an object. -/
theorem value_arr_iff :
    Value ('[' :: '{' :: text) v rest ↔ ∃ xs, v = .arr xs ∧ Elements ('{' :: text) xs rest := by
  constructor
  · intro h
    cases h with
    | num hn htext => exact absurd htext (hn.ne_cons rfl)
    | nilArr h => cases h
    | arr h => exact ⟨_, rfl, h⟩
    | null htext => cases htext
    | true htext => cases htext
    | false htext => cases htext
  · rintro ⟨xs, rfl, hxs⟩
    exact .arr hxs

/-- With a closing bracket the elements are at their end. -/
theorem elementsTail_close_iff : ElementsTail (']' :: text) xs rest ↔ xs = [] ∧ rest = text := by
  rw [ElementsTail, skip_cons rfl]
  constructor
  · rintro (⟨h, rfl⟩ | ⟨text', h, -⟩)
    · cases h
      exact ⟨rfl, rfl⟩
    · cases h
  · rintro ⟨rfl, rfl⟩
    exact Or.inl ⟨rfl, rfl⟩

/-- Behind a comma there are further elements. -/
theorem elementsTail_comma_iff : ElementsTail (',' :: text) xs rest ↔ Elements text xs rest := by
  rw [ElementsTail, skip_cons rfl]
  constructor
  · rintro (⟨h, -⟩ | ⟨text', h, hxs⟩)
    · cases h
    · cases h
      exact hxs
  · exact fun hxs => Or.inr ⟨text, rfl, hxs⟩

end Iff

/-! ## Members with numbers -/

/-- The text of several members with numbers, behind the first member of an object. -/
def numberMembers : List (List Char × List Char) → List Char
  | [] => ['}']
  | (key, n) :: gs => ',' :: '"' :: (key ++ '"' :: ':' :: (n ++ numberMembers gs))

/-- The members of two lists, one after the other. -/
theorem numberMembers_append (gs gs' : List (List Char × List Char)) :
    numberMembers (gs ++ gs') = gs.flatMap (fun g => ',' :: '"' :: (g.1 ++ '"' :: ':' :: g.2))
      ++ numberMembers gs' := by
  induction gs with
  | nil => rfl
  | cons g gs ih => simp [numberMembers, ih]

section NumberMembers

variable {gs : List (List Char × List Char)} {text rest : List Char}
  {ms : List (List Char × Doc)}

/-- What follows a number is a comma or the text behind the members, so that the number ends
there. -/
theorem numberMembers_head (gs : List (List Char × List Char)) (text : List Char) :
    ∃ c text', numberMembers gs ++ text = c :: text' ∧ isNumberChar c = false := by
  cases gs with
  | nil => exact ⟨'}', text, rfl, rfl⟩
  | cons g gs => exact ⟨',', _, rfl, rfl⟩

/-- Behind a number there is another member or the end. -/
theorem membersTail_number_iff {n : List Char} (hn : Number n) {v : Doc} :
    (∃ text', Value (n ++ (numberMembers gs ++ text)) v text' ∧ MembersTail text' ms rest)
      ↔ v = .num n ∧ MembersTail (numberMembers gs ++ text) ms rest := by
  obtain ⟨c, t, hhead, hc⟩ := numberMembers_head gs text
  rw [hhead]
  constructor
  · rintro ⟨text', hv, htail⟩
    rcases id htail with ⟨h, -⟩ | ⟨text'', h, -⟩
    · obtain ⟨rfl, rfl, -⟩ := (value_num_iff hn hc rfl).mp ⟨hv, h⟩
      exact ⟨rfl, htail⟩
    · obtain ⟨rfl, rfl, -⟩ := (value_num_iff hn hc rfl).mp ⟨hv, h⟩
      exact ⟨rfl, htail⟩
  · rintro ⟨rfl, htail⟩
    exact ⟨_, .num hn rfl, htail⟩

/-- Members with numbers are read in their order. -/
theorem membersTail_numbers_iff (hgs : ∀ g ∈ gs, (∀ c ∈ g.1, isPlain c = true) ∧ Number g.2) :
    MembersTail (numberMembers gs ++ text) ms rest
      ↔ ms = gs.map (fun g => (g.1, .num g.2)) ∧ rest = text := by
  induction gs generalizing ms with
  | nil => exact membersTail_close_iff
  | cons g gs ih =>
      obtain ⟨key, n⟩ := g
      obtain ⟨hkey, hn⟩ := hgs _ List.mem_cons_self
      have hgs' : ∀ g ∈ gs, (∀ c ∈ g.1, isPlain c = true) ∧ Number g.2 :=
        fun g hg => hgs g (List.mem_cons_of_mem _ hg)
      have htext : numberMembers ((key, n) :: gs) ++ text
          = ',' :: '"' :: (key ++ '"' :: ':' :: (n ++ (numberMembers gs ++ text))) := by
        simp [numberMembers]
      rw [htext, membersTail_comma_iff, members_iff hkey, hn.skip]
      constructor
      · rintro ⟨v, text', ms', hv, rfl, htail⟩
        obtain ⟨rfl, htail⟩ := (membersTail_number_iff hn).mp ⟨text', hv, htail⟩
        obtain ⟨rfl, rfl⟩ := (ih hgs').mp htail
        exact ⟨rfl, rfl⟩
      · rintro ⟨rfl, rfl⟩
        obtain ⟨text', hv, htail⟩ := (membersTail_number_iff hn).mpr
          ⟨rfl, (ih hgs').mpr ⟨rfl, rfl⟩⟩
        exact ⟨_, text', _, hv, rfl, htail⟩

/-- Where members with numbers are read, none of them is unreadable. -/
theorem MembersTail.number (hgs : ∀ g ∈ gs, (∀ c ∈ g.1, isPlain c = true) ∧
      (Number g.2 ∨ Unreadable g.2))
    (h : MembersTail (numberMembers gs ++ text) ms rest) : ∀ g ∈ gs, Number g.2 := by
  induction gs generalizing ms with
  | nil => intro g hg; cases hg
  | cons g gs ih =>
      obtain ⟨key, n⟩ := g
      obtain ⟨hkey, hn⟩ := hgs _ List.mem_cons_self
      have htext : numberMembers ((key, n) :: gs) ++ text
          = ',' :: '"' :: (key ++ '"' :: ':' :: (n ++ (numberMembers gs ++ text))) := by
        simp [numberMembers]
      rw [htext, membersTail_comma_iff, members_iff hkey] at h
      obtain ⟨v, text', ms', hv, rfl, htail⟩ := h
      rcases hn with hn | hn
      · rw [hn.skip] at hv
        obtain ⟨-, htail⟩ := (membersTail_number_iff hn).mp ⟨text', hv, htail⟩
        intro g hg
        rcases List.mem_cons.mp hg with rfl | hg
        · exact hn
        · exact ih (fun g hg => hgs g (List.mem_cons_of_mem _ hg)) htail g hg
      · exact absurd hv (hn _ _ _)

end NumberMembers

end JsonGrammar
