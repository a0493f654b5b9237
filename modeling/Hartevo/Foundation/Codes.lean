import Mathlib

/-!
# Codes that can be cut off

A record is hashed or stored as the concatenation of the words of its fields.  The concatenation
determines the record when each word can be cut off one of its ends.  The words of a `PrefixCode`
can be cut off the front of any sequence that begins with one, the words of a `SuffixCode` off the
back of any sequence that ends with one.

Words of one length are both.  A word that is preceded by its own length is a prefix code, and a
sequence of words of a prefix code is the sequence of one list only (`PrefixCode.flatMap_inj`).  An
absent value that is written as a mark keeps a suffix code as long as no word ends with the mark.
-/

namespace Hartevo

open List

variable {α β γ : Type*} {D : Set α} {encode : α → List β} {n : ℕ} {mark x y : β}
  {s t l m first first' : List β}

/-- The words of `D` can be cut off the front. -/
def PrefixCode (D : Set α) (encode : α → List β) : Prop :=
  ∀ a ∈ D, ∀ b ∈ D, ∀ s t, encode a ++ s = encode b ++ t → a = b ∧ s = t

/-- The words of `D` can be cut off the back. -/
def SuffixCode (D : Set α) (encode : α → List β) : Prop :=
  ∀ a ∈ D, ∀ b ∈ D, ∀ s t, s ++ encode a = t ++ encode b → s = t ∧ a = b

/-! ## Building codes -/

lemma prefixCode_of_length (hinj : D.InjOn encode)
    (hlen : ∀ a ∈ D, (encode a).length = n) : PrefixCode D encode := by
  intro a ha b hb s t h
  obtain ⟨hw, hr⟩ := append_inj h ((hlen a ha).trans (hlen b hb).symm)
  exact ⟨hinj ha hb hw, hr⟩

lemma suffixCode_of_length (hinj : D.InjOn encode)
    (hlen : ∀ a ∈ D, (encode a).length = n) : SuffixCode D encode := by
  intro a ha b hb s t h
  obtain ⟨hr, hw⟩ := append_inj' h ((hlen a ha).trans (hlen b hb).symm)
  exact ⟨hr, hinj ha hb hw⟩

/-- Words that a function can read off the front are a prefix code. -/
lemma prefixCode_of_decode {decode : List β → Option (α × List β)}
    (h : ∀ a ∈ D, ∀ s, decode (encode a ++ s) = some (a, s)) : PrefixCode D encode := by
  intro a ha b hb s t heq
  have hd := (h a ha s).symm.trans ((congrArg decode heq).trans (h b hb t))
  simpa using hd

/-- A value may be replaced by one that determines it. -/
lemma PrefixCode.comp {f : γ → α} (h : PrefixCode D encode) (hf : Function.Injective f) :
    PrefixCode (Set.preimage f D) (encode ∘ f) := by
  intro a ha b hb s t heq
  obtain ⟨hab, hst⟩ := h (f a) ha (f b) hb s t heq
  exact ⟨hf hab, hst⟩

/-- A word can be cut off when its length stands before it. -/
lemma PrefixCode.lengthPrefixed {L : Set ℕ} {header : ℕ → List β} (h : PrefixCode L header) :
    PrefixCode {w : List β | w.length ∈ L} fun w => header w.length ++ w := by
  intro v hv w hw s t heq
  rw [append_assoc, append_assoc] at heq
  obtain ⟨hlen, hr⟩ := h _ hv _ hw _ _ heq
  exact append_inj hr hlen

/-- An absent value may be written as a mark that ends no word. -/
lemma SuffixCode.option (h : SuffixCode D encode)
    (hl : ∀ a ∈ D, ∃ x, (encode a).getLast? = some x ∧ x ≠ mark) :
    SuffixCode {o : Option α | ∀ a ∈ o, a ∈ D} fun o => o.elim [mark] encode := by
  have hm : ∀ a ∈ D, ∀ s t : List β, s ++ [mark] ≠ t ++ encode a := by
    intro a ha s t heq
    obtain ⟨x, hx, hne⟩ := hl a ha
    have hend := congrArg List.getLast? heq
    rw [getLast?_append, getLast?_append, hx, getLast?_singleton] at hend
    exact hne (Option.some.inj hend).symm
  intro o ho p hp s t heq
  cases o with
  | none =>
    cases p with
    | none => exact ⟨append_cancel_right heq, rfl⟩
    | some b => exact absurd heq (hm b (hp b rfl) s t)
  | some a =>
    cases p with
    | none => exact absurd heq.symm (hm a (ho a rfl) t s)
    | some b =>
      obtain ⟨hst, rfl⟩ := h a (ho a rfl) b (hp b rfl) s t heq
      exact ⟨hst, rfl⟩

/-! ## Reading codes -/

/-- The words of a prefix code determine their list, together with what stands after them if it
begins with no word. -/
lemma PrefixCode.flatMap_append_inj {l m : List α} (h : PrefixCode D encode)
    (hs : ∀ a ∈ D, ∀ u, s ≠ encode a ++ u) (ht : ∀ a ∈ D, ∀ u, t ≠ encode a ++ u)
    (hl : ∀ a ∈ l, a ∈ D) (hm : ∀ a ∈ m, a ∈ D)
    (heq : l.flatMap encode ++ s = m.flatMap encode ++ t) : l = m ∧ s = t := by
  induction l generalizing m with
  | nil =>
    cases m with
    | nil => exact ⟨rfl, heq⟩
    | cons b m =>
      rw [flatMap_nil, nil_append, flatMap_cons, append_assoc] at heq
      exact absurd heq (hs b (hm b mem_cons_self) _)
  | cons a l ih =>
    obtain ⟨ha, hr⟩ := forall_mem_cons.mp hl
    cases m with
    | nil =>
      rw [flatMap_nil, nil_append, flatMap_cons, append_assoc] at heq
      exact absurd heq.symm (ht a ha _)
    | cons b m =>
      obtain ⟨hb, hr'⟩ := forall_mem_cons.mp hm
      rw [flatMap_cons, flatMap_cons, append_assoc, append_assoc] at heq
      obtain ⟨rfl, hrest⟩ := h a ha b hb _ _ heq
      obtain ⟨rfl, hst⟩ := ih hr hr' hrest
      exact ⟨rfl, hst⟩

/-- The words of a prefix code determine the list they come from. -/
lemma PrefixCode.flatMap_inj {l m : List α} (h : PrefixCode D encode)
    (hne : ∀ a ∈ D, encode a ≠ []) (hl : ∀ a ∈ l, a ∈ D) (hm : ∀ a ∈ m, a ∈ D)
    (heq : l.flatMap encode = m.flatMap encode) : l = m := by
  have hend : ∀ a ∈ D, ∀ u, [] ≠ encode a ++ u := fun a ha u hnil =>
    hne a ha (append_eq_nil_iff.mp hnil.symm).1
  exact (h.flatMap_append_inj hend hend hl hm (congrArg (· ++ []) heq)).1

/-- A list splits in one way before its first element that fails `P`. -/
lemma append_inj_of_forall {P : β → Prop} (hs : ∀ z ∈ s, P z) (ht : ∀ z ∈ t, P z)
    (hl : ∀ z ∈ head? l, ¬ P z) (hm : ∀ z ∈ head? m, ¬ P z) (h : s ++ l = t ++ m) :
    s = t ∧ l = m := by
  rcases append_eq_append_iff.mp h with ⟨k, rfl, rfl⟩ | ⟨k, rfl, rfl⟩
  · cases k with
    | nil => exact ⟨(append_nil s).symm, rfl⟩
    | cons z k => exact absurd (ht z (by simp)) (hl z rfl)
  · cases k with
    | nil => exact ⟨append_nil t, rfl⟩
    | cons z k => exact absurd (hs z (by simp)) (hm z rfl)

/-- A list splits in one way at its last element that fails `P`. -/
lemma append_cons_inj_of_forall {P : β → Prop} (hx : ¬ P x) (hy : ¬ P y) (hs : ∀ z ∈ s, P z)
    (ht : ∀ z ∈ t, P z) (h : l ++ x :: s = m ++ y :: t) : l = m ∧ x = y ∧ s = t := by
  rcases append_eq_append_iff.mp h with ⟨k, rfl, hk⟩ | ⟨k, rfl, hk⟩
  · cases k with
    | nil => simpa using hk
    | cons z k =>
      obtain ⟨-, rfl⟩ := List.cons.inj hk
      exact absurd (hs y (by simp)) hy
  · cases k with
    | nil => simpa [eq_comm] using hk
    | cons z k =>
      obtain ⟨-, rfl⟩ := List.cons.inj hk
      exact absurd (ht x (by simp)) hx

/-- Words that are each preceded by a mark that occurs in none of them determine what stands before
them and the words. -/
lemma separated_inj {words words' : List (List β)}
    (hwo : ∀ w ∈ words, mark ∉ w) (hwo' : ∀ w ∈ words', mark ∉ w)
    (hlen : words.length = words'.length)
    (h : first ++ words.flatMap (mark :: ·) = first' ++ words'.flatMap (mark :: ·)) :
    first = first' ∧ words = words' := by
  induction words using List.reverseRecOn generalizing words' with
  | nil =>
    rw [length_nil, eq_comm, length_eq_zero_iff] at hlen
    subst hlen
    simpa using h
  | append_singleton words word ih =>
    obtain rfl | ⟨init, last, rfl⟩ := eq_nil_or_concat words'
    · simp at hlen
    · rw [concat_eq_append] at hwo' hlen h ⊢
      simp only [flatMap_append, flatMap_singleton, ← append_assoc] at h
      have hwor : ∀ z ∈ word, z ≠ mark := fun z hz hm => hwo word (by simp) (hm ▸ hz)
      have hl : ∀ z ∈ last, z ≠ mark := fun z hz hm => hwo' last (by simp) (hm ▸ hz)
      obtain ⟨hr, -, rfl⟩ := append_cons_inj_of_forall (P := (· ≠ mark)) (by simp) (by simp)
        hwor hl h
      obtain ⟨hf, hi⟩ := ih (fun w hw => hwo w (by simp [hw]))
        (fun w hw => hwo' w (by simp [hw])) (by simpa using hlen) hr
      exact ⟨hf, by rw [hi]⟩

/-! ## Digits -/

/-- The low digits of a number determine it up to the weight of the next one. -/
lemma mod_pow_eq_of_digits {k b m : ℕ} (h : ∀ i < k, n / b ^ i % b = m / b ^ i % b) :
    n % b ^ k = m % b ^ k := by
  induction k with
  | zero => simp only [pow_zero, Nat.mod_one]
  | succ k ih =>
    rw [Nat.mod_pow_succ, Nat.mod_pow_succ, h k (Nat.lt_succ_self k),
      ih fun i hi => h i (Nat.lt_succ_of_lt hi)]

/-- Decimal printing of natural numbers loses nothing. -/
lemma toString_nat_injective : Function.Injective (toString : ℕ → String) := by
  intro n m h
  have hd : Nat.toDigits 10 n = Nat.toDigits 10 m := by
    rw [← Nat.toList_repr, ← Nat.toList_repr]
    exact congrArg String.toList h
  rw [← Nat.ofDigitChars_ten_toDigits (n := n), hd, Nat.ofDigitChars_ten_toDigits]

/-- A number is printed in digits. -/
lemma isDigit_of_mem_toString {c : Char} (h : c ∈ (toString n).toList) : c.isDigit = true := by
  have hd : c ∈ Nat.toDigits 10 n := by
    rw [← Nat.toList_repr]
    exact h
  exact Nat.isDigit_of_mem_toDigits (by decide) (by decide) hd

end Hartevo
