import Mathlib.Data.List.Infix

/-! # Tagged and separated byte strings

Storage layouts hash a tag followed by fields, so that two slots are the same only when their
tags and fields are. What keeps them apart before the hash:

* **tags of which neither is a prefix of the other** never meet, whatever follows them
  (`append_ne_of_not_prefix`, `eq_of_append_eq`): a layout's namespaces are kept apart by their
  tags alone;
* **a separator** cuts a string into its fields when the field before it cannot hold the
  separator (`append_cons_inj_of_notMem_left`) or the field after it cannot
  (`append_cons_inj_of_notMem_right`). -/

namespace Framing

variable {α : Type*}

/-- Two strings that start with tags of which neither is a prefix of the other differ. -/
theorem append_ne_of_not_prefix {p q x y : List α} (hpq : ¬ p <+: q) (hqp : ¬ q <+: p) :
    p ++ x ≠ q ++ y := by
  intro h
  have hq : q <+: p ++ x := h ▸ List.prefix_append q y
  rcases List.prefix_or_prefix_of_prefix (List.prefix_append p x) hq with hp | hp
  · exact hpq hp
  · exact hqp hp

/-- **Equal tagged strings.** When only equal tags are prefixes of one another, two equal
strings have the same tag and the same rest. -/
theorem eq_of_append_eq {p q x y : List α} (htag : p <+: q ∨ q <+: p → p = q)
    (h : p ++ x = q ++ y) : p = q ∧ x = y := by
  have hpq : p = q := by
    by_contra hne
    exact append_ne_of_not_prefix (fun hp => hne (htag (.inl hp)))
      (fun hq => hne (htag (.inr hq))) h
  subst hpq
  exact ⟨rfl, List.append_cancel_left h⟩

/-- **A separator after a field that cannot hold it** is the first separator: the field before
it and the rest after it are determined. -/
theorem append_cons_inj_of_notMem_left {c : α} {a a' b b' : List α} (ha : c ∉ a) (ha' : c ∉ a')
    (h : a ++ c :: b = a' ++ c :: b') : a = a' ∧ b = b' := by
  -- on the field before the separator, which the two strings read in step
  induction a generalizing a' with
  | nil =>
    cases a' with
    | nil => exact ⟨rfl, (List.cons.inj h).2⟩
    | cons d a' =>
      have hcd : c = d := (List.cons.inj h).1
      exact absurd (hcd ▸ List.mem_cons_self) ha'
  | cons d a ih =>
    cases a' with
    | nil =>
      have hdc : d = c := (List.cons.inj h).1
      exact absurd (hdc ▸ List.mem_cons_self) ha
    | cons d' a' =>
      obtain ⟨hd, hrest⟩ := List.cons.inj h
      obtain ⟨ha, hb⟩ := ih (fun hc => ha (List.mem_cons_of_mem d hc))
        (fun hc => ha' (List.mem_cons_of_mem d' hc)) hrest
      exact ⟨hd ▸ ha ▸ rfl, hb⟩

/-- **A separator before a field that cannot hold it** is the last separator: the string before
it and the field after it are determined. -/
theorem append_cons_inj_of_notMem_right {c : α} {a a' b b' : List α} (hb : c ∉ b) (hb' : c ∉ b')
    (h : a ++ c :: b = a' ++ c :: b') : a = a' ∧ b = b' := by
  -- read backwards, the field after the separator comes first
  have hrev : b.reverse ++ c :: a.reverse = b'.reverse ++ c :: a'.reverse := by
    simpa using congrArg List.reverse h
  obtain ⟨hb, ha⟩ := append_cons_inj_of_notMem_left (by simpa using hb) (by simpa using hb') hrev
  exact ⟨List.reverse_injective ha, List.reverse_injective hb⟩

end Framing
