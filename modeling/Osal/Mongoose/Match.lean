import Osal.Basic

/-!
# Mongoose's glob match

The MQTT client picks the subscription a message goes to, and the HTTP server the API route a
request goes to, with Mongoose's `mg_match(str, pattern, caps)`. Mongoose is not part of this
repository; `mgMatch` follows the rules it documents for the function: `?` matches any one
byte, `*` any run of bytes without `/`, `#` any run of bytes, and every other byte itself. The
captures do not change the result and are left out.

Both callers use patterns whose bytes are literal (`IsLit`) but for a final `#`:

* a literal pattern matches exactly itself (`mgMatch_literal`);
* a literal pattern followed by `#` matches exactly the strings it is a prefix of
  (`mgMatch_literal_hash`);
* every literal byte of any pattern occurs in every string it matches (`mem_of_mgMatch`).
-/

namespace Osal

/-- A byte that `mg_match` compares as itself: not `?`, `*` or `#`. -/
def IsLit (b : UInt8) : Prop := b ≠ 63 ∧ b ≠ 42 ∧ b ≠ 35

instance : DecidablePred IsLit := fun b => inferInstanceAs (Decidable (b ≠ 63 ∧ b ≠ 42 ∧ b ≠ 35))

/-- `mg_match(str, pattern, NULL)` by Mongoose's documented rules, by recursion on the pattern:
`#` and `*` try every split of the rest of the string, `*` only those that skip no `/`. -/
def mgMatch : List UInt8 → List UInt8 → Bool
  | s, [] => s.isEmpty
  | s, p :: ps =>
    if p = 35 then (List.range (s.length + 1)).any fun k => mgMatch (s.drop k) ps
    else if p = 42 then
      (List.range (s.length + 1)).any fun k => !((s.take k).contains 47) && mgMatch (s.drop k) ps
    else match s with
      | [] => false
      | b :: s' => (p == 63 || b == p) && mgMatch s' ps

@[simp] theorem mgMatch_nil (s : List UInt8) : mgMatch s [] = s.isEmpty := by
  simp [mgMatch]

/-- A literal byte of the pattern consumes the same byte of the string. -/
theorem mgMatch_lit_cons {p : UInt8} (hp : IsLit p) (s ps : List UInt8) :
    mgMatch s (p :: ps) = match s with
      | [] => false
      | b :: s' => b == p && mgMatch s' ps := by
  obtain ⟨h63, h42, h35⟩ := hp
  cases s <;> simp [mgMatch, h42, h35, beq_false_of_ne h63]

/-- `#` matches any run of bytes, the whole string included. -/
theorem mgMatch_hash (s ps : List UInt8) :
    mgMatch s (35 :: ps) = true ↔ ∃ k ≤ s.length, mgMatch (s.drop k) ps = true := by
  simp [mgMatch, Nat.lt_succ_iff]

theorem mgMatch_literal {p : List UInt8} (hp : ∀ b ∈ p, IsLit b) (s : List UInt8) :
    mgMatch s p = (s == p) := by
  induction p generalizing s with
  | nil => cases s <;> rfl
  | cons c ps ih =>
    rw [mgMatch_lit_cons (hp c (List.mem_cons_self _ _))]
    cases s with
    | nil => rfl
    | cons b s' => simp [ih (fun b hb => hp b (List.mem_cons_of_mem _ hb))]

theorem mgMatch_literal_hash {p : List UInt8} (hp : ∀ b ∈ p, IsLit b) (s : List UInt8) :
    mgMatch s (p ++ [35]) = p.isPrefixOf s := by
  induction p generalizing s with
  | nil =>
    have : mgMatch s [35] = true := (mgMatch_hash s []).2 ⟨s.length, le_rfl, by simp⟩
    simpa using this
  | cons c ps ih =>
    rw [List.cons_append, mgMatch_lit_cons (hp c (List.mem_cons_self _ _))]
    cases s with
    | nil => rfl
    | cons b s' =>
      simp only [List.isPrefixOf, ih (fun b hb => hp b (List.mem_cons_of_mem _ hb))]
      by_cases hbc : b = c
      · rw [hbc]
      · simp [beq_false_of_ne hbc, beq_false_of_ne (Ne.symm hbc)]

theorem mem_of_mgMatch {b : UInt8} (hb : IsLit b) {p : List UInt8} (hm : b ∈ p) :
    ∀ {s}, mgMatch s p = true → b ∈ s := by
  induction p with
  | nil => cases hm
  | cons c ps ih =>
    intro s h
    by_cases h35 : c = 35
    · obtain ⟨k, -, hk⟩ := (mgMatch_hash s ps).1 (h35 ▸ h)
      have : b ∈ ps := (List.mem_cons.1 hm).resolve_left (by rintro rfl; exact hb.2.2 h35)
      exact List.mem_of_mem_drop (ih this hk)
    by_cases h42 : c = 42
    · simp only [mgMatch, h42, if_neg (by decide : (42 : UInt8) ≠ 35), if_true, List.any_eq_true,
        Bool.and_eq_true] at h
      obtain ⟨k, -, -, hk⟩ := h
      have : b ∈ ps := (List.mem_cons.1 hm).resolve_left (by rintro rfl; exact hb.2.1 h42)
      exact List.mem_of_mem_drop (ih this hk)
    cases s with
    | nil => simp [mgMatch, h35, h42] at h
    | cons d s' =>
      simp only [mgMatch, h35, h42, if_false, Bool.and_eq_true, Bool.or_eq_true, beq_iff_eq] at h
      rcases List.mem_cons.1 hm with rfl | hm
      · exact h.1.elim (fun h63 => absurd h63 hb.1) (fun hd => hd ▸ List.mem_cons_self _ _)
      · exact List.mem_cons_of_mem _ (ih hm h.2)

end Osal
