import HydrationPlan.Walk

/-!
# What a walk visits

Nothing is said here about the graph itself. No key is visited twice. A visited node inherits what
successors pass on, a fault was listed by a node that was visited, and a walk without a fault leaves
no fresh successor behind: its nodes form a closed set, up to their keys.
-/

namespace HydrationPlan.Walk

variable {α ε κ : Type} [DecidableEq κ] {key : α → κ} {next : α → List (Except ε α)}
variable {fresh : List κ} {pending : List (Except ε α)}

theorem mem_without {k l : κ} : l ∈ without k fresh ↔ l ∈ fresh ∧ l ≠ k := by
  simp [without]

theorem run_nil : run key next fresh [] = ⟨[], none⟩ := by rw [run]

theorem run_error (e : ε) : run key next fresh (.error e :: pending) = ⟨[], some e⟩ := by rw [run]

theorem run_fresh {a : α} (h : key a ∈ fresh) :
    run key next fresh (.ok a :: pending) =
      ⟨a :: (run key next (without (key a) fresh) (next a ++ pending)).visited,
        (run key next (without (key a) fresh) (next a ++ pending)).fault⟩ := by
  rw [run, dif_pos h]

theorem run_stale {a : α} (h : key a ∉ fresh) :
    run key next fresh (.ok a :: pending) = run key next fresh pending := by
  rw [run, dif_neg h]

theorem mem_visited_of_fresh {a : α} (h : key a ∈ fresh) :
    a ∈ (run key next fresh (.ok a :: pending)).visited := by
  rw [run_fresh h]
  exact List.mem_cons_self

theorem forall_visited {P : α → Prop} (hnext : ∀ a, P a → ∀ b, .ok b ∈ next a → P b)
    (hpending : ∀ a, .ok a ∈ pending → P a) :
    ∀ a ∈ (run key next fresh pending).visited, P a := by
  induction fresh, pending using run.induct key next with
  | case1 fresh => simp [run_nil]
  | case2 fresh e rest => simp [run_error]
  | case3 fresh a rest h _ ih =>
    have ha : P a := hpending a List.mem_cons_self
    rw [run_fresh h]
    intro b hb
    rcases List.mem_cons.mp hb with rfl | hb
    · exact ha
    · refine ih ?_ b hb
      intro c hc
      rcases List.mem_append.mp hc with hc | hc
      · exact hnext a ha c hc
      · exact hpending c (List.mem_cons_of_mem _ hc)
  | case4 fresh a rest h ih =>
    rw [run_stale h]
    exact ih fun b hb => hpending b (List.mem_cons_of_mem _ hb)

theorem fault_source {e : ε} (h : (run key next fresh pending).fault = some e) :
    .error e ∈ pending ∨ ∃ a ∈ (run key next fresh pending).visited, .error e ∈ next a := by
  induction fresh, pending using run.induct key next with
  | case1 fresh => simp [run_nil] at h
  | case2 fresh d rest =>
    rw [run_error, Option.some.injEq] at h
    exact Or.inl (h ▸ List.mem_cons_self)
  | case3 fresh a rest hk _ ih =>
    rw [run_fresh hk] at h ⊢
    rcases ih h with hp | ⟨b, hb, he⟩
    · rcases List.mem_append.mp hp with he | he
      · exact Or.inr ⟨a, List.mem_cons_self, he⟩
      · exact Or.inl (List.mem_cons_of_mem _ he)
    · exact Or.inr ⟨b, List.mem_cons_of_mem _ hb, he⟩
  | case4 fresh a rest hk ih =>
    rw [run_stale hk] at h ⊢
    rcases ih h with he | hv
    · exact Or.inl (List.mem_cons_of_mem _ he)
    · exact Or.inr hv

/-- No fault is listed, and every node that was still fresh has been visited under its key. -/
def Settled (key : α → κ) (fresh : List κ) (visited : List α) (nodes : List (Except ε α)) : Prop :=
  ∀ n ∈ nodes, ∃ a, n = .ok a ∧ (key a ∈ fresh → key a ∈ visited.map key)

theorem Settled.without {a : α} {visited : List α} {nodes : List (Except ε α)}
    (h : Settled key (without (key a) fresh) visited nodes) :
    Settled key fresh (a :: visited) nodes := by
  intro n hn
  obtain ⟨b, rfl, hb⟩ := h n hn
  refine ⟨b, rfl, fun hf => ?_⟩
  by_cases hk : key b = key a
  · rw [hk]
    exact List.mem_cons_self
  · exact List.mem_cons_of_mem _ (hb (mem_without.mpr ⟨hf, hk⟩))

/-- A walk without a fault has settled what was pending and the successors of what it visited. -/
theorem settled_of_fault_eq_none (h : (run key next fresh pending).fault = none) :
    Settled key fresh (run key next fresh pending).visited pending ∧
      ∀ a ∈ (run key next fresh pending).visited,
        Settled key fresh (run key next fresh pending).visited (next a) := by
  induction fresh, pending using run.induct key next with
  | case1 fresh => simp [run_nil, Settled]
  | case2 fresh e rest => simp [run_error] at h
  | case3 fresh a rest hk _ ih =>
    rw [run_fresh hk] at h ⊢
    obtain ⟨hpending, hvisited⟩ := ih h
    -- The rest is settled up to the key of `a`, and `a` itself is visited now.
    have hsplit := hpending.without
    refine ⟨?_, ?_⟩
    · intro n hn
      rcases List.mem_cons.mp hn with rfl | hn
      · exact ⟨a, rfl, fun _ => List.mem_cons_self⟩
      · exact hsplit n (List.mem_append_right _ hn)
    · intro b hb
      rcases List.mem_cons.mp hb with rfl | hb
      · exact fun n hn => hsplit n (List.mem_append_left _ hn)
      · exact (hvisited b hb).without
  | case4 fresh a rest hk ih =>
    rw [run_stale hk] at h ⊢
    obtain ⟨hpending, hvisited⟩ := ih h
    refine ⟨?_, hvisited⟩
    intro n hn
    rcases List.mem_cons.mp hn with rfl | hn
    · exact ⟨a, rfl, fun hf => absurd hf hk⟩
    · exact hpending n hn

theorem key_mem_of_visited {a : α} (h : a ∈ (run key next fresh pending).visited) :
    key a ∈ fresh := by
  induction fresh, pending using run.induct key next with
  | case1 fresh => simp [run_nil] at h
  | case2 fresh e rest => simp [run_error] at h
  | case3 fresh b rest hk _ ih =>
    rw [run_fresh hk] at h
    rcases List.mem_cons.mp h with rfl | h
    · exact hk
    · exact (mem_without.mp (ih h)).1
  | case4 fresh b rest hk ih =>
    rw [run_stale hk] at h
    exact ih h

/-- A walk visits each key at most once. -/
theorem nodup_visited : ((run key next fresh pending).visited.map key).Nodup := by
  induction fresh, pending using run.induct key next with
  | case1 fresh => simp [run_nil]
  | case2 fresh e rest => simp [run_error]
  | case3 fresh a rest hk _ ih =>
    rw [run_fresh hk, List.map_cons, List.nodup_cons]
    refine ⟨fun ha => ?_, ih⟩
    obtain ⟨b, hb, hkey⟩ := List.mem_map.mp ha
    exact (mem_without.mp (key_mem_of_visited hb)).2 hkey
  | case4 fresh a rest hk ih =>
    rw [run_stale hk]
    exact ih

theorem length_visited_le : (run key next fresh pending).visited.length ≤ fresh.length := by
  induction fresh, pending using run.induct key next with
  | case1 fresh => simp [run_nil]
  | case2 fresh e rest => simp [run_error]
  | case3 fresh a rest hk _ ih =>
    rw [run_fresh hk, List.length_cons]
    exact Nat.lt_of_le_of_lt ih (length_without_lt hk)
  | case4 fresh a rest hk ih =>
    rw [run_stale hk]
    exact ih

/-- A walk asks of its fresh keys only which they are. -/
theorem run_congr {fresh' : List κ} (h : ∀ k, k ∈ fresh ↔ k ∈ fresh') :
    run key next fresh pending = run key next fresh' pending := by
  induction fresh, pending using run.induct key next generalizing fresh' with
  | case1 fresh => rw [run_nil, run_nil]
  | case2 fresh e rest => rw [run_error, run_error]
  | case3 fresh a rest hk _ ih =>
    have hrest : ∀ k, k ∈ without (key a) fresh ↔ k ∈ without (key a) fresh' := by
      intro k
      rw [mem_without, mem_without, h]
    rw [run_fresh hk, run_fresh ((h _).mp hk), ih hrest]
  | case4 fresh a rest hk ih => rw [run_stale hk, run_stale (mt (h _).mpr hk), ih h]

end HydrationPlan.Walk
