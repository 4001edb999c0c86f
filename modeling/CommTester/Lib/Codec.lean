/-
  Texts that can be read back from the front of a longer text.

  `PrefixFree f` says that the text of a value, in front of anything, tells the value and what
  follows. Texts none of which begins another, texts of one length, texts up to a stop letter,
  pairs and lists of such texts are so, and a list of values with such texts is known from the
  whole text (`flatMap_injective`).
-/
import Mathlib.Data.List.Basic

namespace Codec

variable {α β γ : Type}

def PrefixFree (f : α → List γ) : Prop := ∀ a b s t, f a ++ s = f b ++ t → a = b ∧ s = t

/-- Texts none of which begins another. -/
theorem prefixFree_of_prefix {f : α → List γ} (h : ∀ a b, f a <+: f b → a = b) :
    PrefixFree f := by
  intro a b s t hst
  have hab : a = b := by
    obtain hle | hle := List.prefix_or_prefix_of_prefix ⟨s, hst⟩ (List.prefix_append (f b) t)
    · exact h a b hle
    · exact (h b a hle).symm
  subst hab
  exact ⟨rfl, List.append_cancel_left hst⟩

/-- Texts of one length. -/
theorem prefixFree_of_length {f : α → List γ} {n : Nat} (hlen : ∀ a, (f a).length = n)
    (hinj : Function.Injective f) : PrefixFree f := by
  intro a b s t h
  obtain ⟨hab, hst⟩ := List.append_inj h ((hlen a).trans (hlen b).symm)
  exact ⟨hinj hab, hst⟩

/-- Texts of letters with a property, up to a letter without it. -/
theorem prefixFree_stop {f : α → List γ} (p : γ → Bool) (hp : ∀ a, ∀ c ∈ f a, p c = true)
    (hinj : Function.Injective f) {e : γ} (he : p e = false) :
    PrefixFree fun a => f a ++ [e] := by
  intro a b s t h
  have hspan : ∀ a s, (f a ++ [e] ++ s).takeWhile p = f a := fun a s => by
    rw [List.append_assoc, List.takeWhile_append_of_pos (hp a), List.singleton_append,
      List.takeWhile_cons_of_neg (by simp [he]), List.append_nil]
  have hab : f a = f b := by rw [← hspan a s, ← hspan b t, h]
  obtain rfl := hinj hab
  exact ⟨rfl, List.append_cancel_left h⟩

theorem PrefixFree.append {f : α → List γ} {g : β → List γ} (hf : PrefixFree f)
    (hg : PrefixFree g) : PrefixFree fun p : α × β => f p.1 ++ g p.2 := by
  rintro ⟨a, b⟩ ⟨a', b'⟩ s t h
  rw [List.append_assoc, List.append_assoc] at h
  obtain ⟨rfl, hrest⟩ := hf _ _ _ _ h
  obtain ⟨rfl, hst⟩ := hg _ _ _ _ hrest
  exact ⟨rfl, hst⟩

/-- The same word in front. -/
theorem PrefixFree.lead {f : α → List γ} (hf : PrefixFree f) (w : List γ) :
    PrefixFree fun a => w ++ f a := by
  intro a b s t h
  rw [List.append_assoc, List.append_assoc] at h
  exact hf _ _ _ _ (List.append_cancel_left h)

/-- The same word behind. -/
theorem PrefixFree.trail {f : α → List γ} (hf : PrefixFree f) (w : List γ) :
    PrefixFree fun a => f a ++ w := by
  intro a b s t h
  rw [List.append_assoc, List.append_assoc] at h
  obtain ⟨rfl, hrest⟩ := hf _ _ _ _ h
  exact ⟨rfl, List.append_cancel_left hrest⟩

/-- Words that differ somewhere tell their texts apart. -/
theorem append_ne {u v : List γ} {i : Nat} {c d : γ} (hu : u[i]? = some c) (hv : v[i]? = some d)
    (hcd : c ≠ d) (s t : List γ) : u ++ s ≠ v ++ t := by
  intro h
  have hget : (u ++ s)[i]? = (v ++ t)[i]? := by rw [h]
  rw [List.getElem?_append_left (List.getElem?_eq_some_iff.1 hu).1,
    List.getElem?_append_left (List.getElem?_eq_some_iff.1 hv).1, hu, hv] at hget
  exact hcd (Option.some.inj hget)

/-- Items up to a letter that no item begins with. -/
theorem PrefixFree.list {f : α → List γ} (hf : PrefixFree f) {e : γ}
    (he : ∀ a, ∃ c w, f a = c :: w ∧ c ≠ e) : PrefixFree fun l : List α => l.flatMap f ++ [e] := by
  intro l
  induction l with
  | nil =>
    intro m s t h
    cases m with
    | nil => exact ⟨rfl, List.append_cancel_left h⟩
    | cons b m =>
      obtain ⟨c, w, hb, hc⟩ := he b
      simp only [List.flatMap_nil, List.flatMap_cons, hb, List.nil_append, List.cons_append,
        List.cons.injEq] at h
      exact absurd h.1.symm hc
  | cons a l ih =>
    intro m s t h
    cases m with
    | nil =>
      obtain ⟨c, w, ha, hc⟩ := he a
      simp only [List.flatMap_nil, List.flatMap_cons, ha, List.nil_append, List.cons_append,
        List.cons.injEq] at h
      exact absurd h.1 hc
    | cons b m =>
      simp only [List.flatMap_cons, List.append_assoc] at h
      obtain ⟨rfl, hrest⟩ := hf _ _ _ _ h
      obtain ⟨rfl, hst⟩ := ih m s t (by simpa only [List.append_assoc] using hrest)
      exact ⟨rfl, hst⟩

theorem flatMap_injective {f : α → List γ} (hf : PrefixFree f) (hne : ∀ a, f a ≠ []) :
    Function.Injective fun l : List α => l.flatMap f := by
  intro l
  induction l with
  | nil =>
    intro m h
    cases m with
    | nil => rfl
    | cons b m => exact absurd (List.append_eq_nil_iff.1 h.symm).1 (hne b)
  | cons a l ih =>
    intro m h
    cases m with
    | nil => exact absurd (List.append_eq_nil_iff.1 h).1 (hne a)
    | cons b m =>
      obtain ⟨rfl, hrest⟩ := hf _ _ _ _ h
      rw [ih hrest]

end Codec
