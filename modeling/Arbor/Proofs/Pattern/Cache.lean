import Arbor.Pattern.Cache
/-!
The cache of compiled expressions is transparent.
-/

namespace Arbor.Pattern

open Arbor.Regex
open scoped List

theorem cacheKey_inj {e e' : String} {cs cs' : Bool} (h : cacheKey e cs = cacheKey e' cs') :
    e = e' ∧ cs = cs' := by
  have hl := congrArg String.toList h
  -- the first letter of a key tells the readings apart, and the rest is the expression
  cases cs <;> cases cs' <;> simp [cacheKey] at hl
  · exact ⟨String.toList_inj.mp hl, rfl⟩
  · exact ⟨String.toList_inj.mp hl, rfl⟩

namespace Cache

theorem getOrCompile_cases (c : Cache) (e : String) (cs : Bool) :
    (∃ r, (cacheKey e cs, r) ∈ c.entries ∧ c.getOrCompile e cs = (.ok r, c)) ∨
    ∃ kept : Cache, (kept = c ∧ c.size < cacheCapacity ∨ kept = {}) ∧
      ((∃ r, Regex.compile e (!cs) = .ok r ∧
          c.getOrCompile e cs = (.ok r, ⟨kept.entries ++ [(cacheKey e cs, r)]⟩)) ∨
        ∃ err, Regex.compile e (!cs) = .error err ∧ c.getOrCompile e cs = (.error err, kept)) := by
  unfold getOrCompile
  dsimp only
  cases hfind : c.entries.find? (·.1 == cacheKey e cs) with
  | some entry =>
    obtain ⟨k, r⟩ := entry
    have hk : k = cacheKey e cs := by simpa using List.find?_some hfind
    exact .inl ⟨r, hk ▸ List.mem_of_find?_eq_some hfind, rfl⟩
  | none =>
    refine .inr ⟨if c.size ≥ cacheCapacity then {} else c, ?_, ?_⟩
    · by_cases hfull : c.size ≥ cacheCapacity
      · exact .inr (if_pos hfull)
      · exact .inl ⟨if_neg hfull, by omega⟩
    · cases Regex.compile e (!cs) with
      | ok r => exact .inl ⟨r, rfl, rfl⟩
      | error err => exact .inr ⟨err, rfl, rfl⟩

/-- The cache's invariant: every entry holds what compiling its key's expression gives, and there
are no more entries than the capacity. -/
structure Sound (c : Cache) : Prop where
  compiled : ∀ k r, (k, r) ∈ c.entries → ∃ e cs, k = cacheKey e cs ∧ Regex.compile e (!cs) = .ok r
  size_le : c.size ≤ cacheCapacity

theorem sound_empty : ({} : Cache).Sound :=
  ⟨fun _ _ h => absurd h List.not_mem_nil, by decide⟩

variable {c : Cache} {e : String} {cs : Bool}

theorem getOrCompile_fst (hc : c.Sound) : (c.getOrCompile e cs).1 = Regex.compile e (!cs) := by
  rcases getOrCompile_cases c e cs with ⟨r, hmem, hget⟩ | ⟨kept, -, ⟨r, hr, hget⟩ | ⟨err, herr, hget⟩⟩
  · -- the entry under the call's key was compiled from the call's expression and reading
    obtain ⟨e', cs', hkey, hr⟩ := hc.compiled _ r hmem
    obtain ⟨rfl, rfl⟩ := cacheKey_inj hkey
    rw [hget, hr]
  · rw [hget, hr]
  · rw [hget, herr]

theorem getOrCompile_sound (hc : c.Sound) : (c.getOrCompile e cs).2.Sound := by
  rcases getOrCompile_cases c e cs with ⟨r, -, hget⟩ | ⟨kept, hkept, hcompiled⟩
  · rw [hget]
    exact hc
  · -- what is kept is the sound cache itself, with room for one more, or the empty cache
    have hkeptSound : kept.Sound := by
      rcases hkept with ⟨rfl, -⟩ | rfl
      · exact hc
      · exact sound_empty
    have hroom : kept.size < cacheCapacity := by
      rcases hkept with ⟨rfl, hlt⟩ | rfl
      · exact hlt
      · decide
    rcases hcompiled with ⟨r, hr, hget⟩ | ⟨err, -, hget⟩
    · rw [hget]
      refine ⟨fun k r' hmem => ?_, ?_⟩
      · rcases List.mem_append.mp hmem with hmem | hmem
        · exact hkeptSound.compiled k r' hmem
        · obtain ⟨rfl, rfl⟩ := Prod.mk.inj (List.mem_singleton.mp hmem)
          exact ⟨e, cs, rfl, hr⟩
      · simp only [size, List.length_append, List.length_singleton] at hroom ⊢
        omega
    · rw [hget]
      exact hkeptSound

theorem getOrCompile_sublist_of_error {err : SyntaxError}
    (h : (c.getOrCompile e cs).1 = .error err) : (c.getOrCompile e cs).2.entries <+ c.entries := by
  rcases getOrCompile_cases c e cs with ⟨r, -, hget⟩ | ⟨kept, hkept, ⟨r, -, hget⟩ | ⟨err', -, hget⟩⟩
  · rw [hget] at h
    cases h
  · rw [hget] at h
    cases h
  · rw [hget]
    rcases hkept with ⟨rfl, -⟩ | rfl
    · exact List.Sublist.refl _
    · exact List.nil_sublist _

/-- The cache after a run of calls, each an expression and whether it is read with case, made
from the empty cache. -/
def ofCalls (calls : List (String × Bool)) : Cache :=
  calls.foldl (fun c call => (c.getOrCompile call.1 call.2).2) {}

theorem ofCalls_sound (calls : List (String × Bool)) : (ofCalls calls).Sound := by
  suffices h : ∀ c : Cache, c.Sound →
      (calls.foldl (fun c call => (c.getOrCompile call.1 call.2).2) c).Sound from
    h {} sound_empty
  induction calls with
  | nil => exact fun _ hc => hc
  | cons call calls ih => exact fun _ hc => ih _ (getOrCompile_sound hc)

/-- The cache is transparent: after any run of calls a call returns what compiling returns, and the
cache stays within its capacity. -/
theorem getOrCompile_ofCalls (calls : List (String × Bool)) (e : String) (cs : Bool) :
    ((ofCalls calls).getOrCompile e cs).1 = Regex.compile e (!cs) ∧
      (ofCalls calls).size ≤ cacheCapacity ∧
      (∀ err, ((ofCalls calls).getOrCompile e cs).1 = .error err →
        ((ofCalls calls).getOrCompile e cs).2.entries <+ (ofCalls calls).entries) ∧
      ∀ e' cs', cacheKey e cs = cacheKey e' cs' → e = e' ∧ cs = cs' :=
  ⟨getOrCompile_fst (ofCalls_sound calls), (ofCalls_sound calls).size_le,
    fun _ h => getOrCompile_sublist_of_error h, fun _ _ h => cacheKey_inj h⟩

end Cache

end Arbor.Pattern
