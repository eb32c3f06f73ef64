import Widgetry.Proofs.Compile.RoundTrip
import Widgetry.Proofs.Project.Runs

/-!
Ids of roots. A search for a free id passes over taken names only and cannot pass over more of them
than there are, but its numbers have 32 bits and go round after the largest. Main statement: the
search finds the first free number if and only if that number is not too large, and the roots of a
run have different ids, none of which leads to another folder.
-/

namespace Widgetry

/-! ## The search for a free id -/

section

variable {candidate : String} {taken : List String}

theorem numbered_inj {name : String} {m n : Int} : numbered name m = numbered name n ↔ m = n := by
  simp only [numbered, toString, String.append_right_inj, Int.repr_inj]

theorem numbered_ne_self (name : String) (n : Int) : numbered name n ≠ name := by
  intro h
  have hlength : (numbered name n).length = name.length + 1 + (Int.repr n).length := by
    simp only [numbered, toString, String.length_append]
    rfl
  rw [h] at hlength
  omega

/-- The name that a search from `n` on tries after `k` others. -/
def tried (candidate : String) (n : Int32) (k : Nat) : String :=
  numbered candidate (n + Int32.ofNat k).toInt

theorem tried_succ (candidate : String) (n : Int32) (k : Nat) :
    tried candidate n (k + 1) = tried candidate (n + 1) k := by
  rw [tried, tried, Nat.add_comm k 1, Int32.ofNat_add, ← Int32.add_assoc]
  rfl

/-- Counting on from two meets no bound before the largest number. -/
theorem tried_two {k : Nat} (h : 2 + (k : Int) ≤ Int32.maxValue.toInt) :
    tried candidate 2 k = numbered candidate (2 + k) := by
  rw [Int32.toInt_maxValue] at h
  have hsum : (2 : Int32) + Int32.ofNat k = Int32.ofNat (2 + k) := (Int32.ofNat_add 2 k).symm
  rw [tried, hsum, Int32.toInt_ofNat_of_lt (by omega), Nat.cast_add, Nat.cast_ofNat]

theorem firstFree?_eq_find? (candidate : String) (taken : List String) (left : Nat) (n : Int32) :
    firstFree? candidate taken left n
      = ((List.range left).find? fun k => decide (tried candidate n k ∉ taken)).map
          (tried candidate n) := by
  induction left generalizing n with
  | zero => rfl
  | succ left ih =>
    have hfirst : tried candidate n 0 = numbered candidate n.toInt :=
      congrArg (fun n => numbered candidate (Int32.toInt n)) (Int32.add_zero n)
    rw [firstFree?, List.range_succ_eq_map, List.find?_cons, List.find?_map, hfirst, ih]
    by_cases h : numbered candidate n.toInt ∈ taken
    · simp only [h, if_true, not_true_eq_false, decide_false, Option.map_map, Function.comp_def,
        Nat.succ_eq_add_one, tried_succ]
    · simp only [h, if_false, not_false_eq_true, decide_true, Option.map_some, hfirst]

theorem firstFree?_eq_some_iff {left : Nat} {n : Int32} {id : String} :
    firstFree? candidate taken left n = some id ↔ ∃ k < left,
      tried candidate n k = id ∧ tried candidate n k ∉ taken ∧
        ∀ j < k, tried candidate n j ∈ taken := by
  simp only [firstFree?_eq_find?, Option.map_eq_some_iff, List.find?_range_eq_some, List.mem_range,
    decide_eq_true_iff, Bool.not_eq_true', decide_eq_false_iff_not, not_not]
  constructor
  · rintro ⟨k, ⟨hfree, hk, hpassed⟩, hid⟩
    exact ⟨k, hk, hid, hfree, hpassed⟩
  · rintro ⟨k, hk, hid, hfree, hpassed⟩
    exact ⟨k, ⟨hfree, hk, hpassed⟩, hid⟩

theorem firstFree?_eq_none_iff :
    firstFree? candidate taken Int32.size 2 = none ↔
      ∀ n : Int32, numbered candidate n.toInt ∈ taken := by
  simp only [firstFree?_eq_find?, Option.map_eq_none_iff, List.find?_range_eq_none,
    Bool.not_eq_true', decide_eq_false_iff_not, not_not]
  refine ⟨fun h n => ?_, fun h k _ => h _⟩
  -- Every number is met before the count comes back to two.
  have hsteps : Int32.ofNat (n - 2).toBitVec.toNat = n - 2 := by
    rw [← Int32.toBitVec_inj, Int32.toBitVec_ofNat', BitVec.ofNat_toNat, BitVec.setWidth_eq]
  have htaken := h _ (n - 2).toBitVec.isLt
  rwa [tried, hsteps, Int32.add_comm, Int32.sub_add_cancel] at htaken

/-- Names that are all taken are no more than the taken ones. -/
theorem le_length_of_passed {found : Nat} (htaken : candidate ∈ taken)
    (hpassed : ∀ k < found, numbered candidate (2 + k) ∈ taken) : found + 1 ≤ taken.length := by
  have hdistinct :
      (candidate :: (List.range found).map fun k : Nat => numbered candidate (2 + k)).Nodup := by
    refine List.nodup_cons.2 ⟨fun h => ?_, List.Nodup.map (fun j k h => ?_) List.nodup_range⟩
    · obtain ⟨k, -, hk⟩ := List.mem_map.1 h
      exact numbered_ne_self candidate _ hk
    · have := numbered_inj.1 h
      omega
  have hsubset : candidate :: (List.range found).map (fun k : Nat => numbered candidate (2 + k))
      ⊆ taken := by
    refine List.cons_subset.2 ⟨htaken, fun id hid => ?_⟩
    obtain ⟨k, hk, rfl⟩ := List.mem_map.1 hid
    exact hpassed k (List.mem_range.1 hk)
  simpa using (hdistinct.subperm hsubset).length_le

/-- A taken candidate has a first free number, and fewer numbers from two on come before it than
there are taken names. -/
theorem exists_isLeast_free (h : candidate ∈ taken) : ∃ n : Int,
    IsLeast {n : Int | 2 ≤ n ∧ numbered candidate n ∉ taken} n ∧ n ≤ taken.length + 1 := by
  have hexists : ∃ k : Nat, numbered candidate (2 + k) ∉ taken := by
    by_contra hall
    have hlength := le_length_of_passed h fun k (_ : k < taken.length) =>
      not_not.1 fun hk => hall ⟨k, hk⟩
    omega
  have hlength := le_length_of_passed h fun j hj => not_not.1 (Nat.find_min hexists hj)
  refine ⟨2 + Nat.find hexists, ⟨⟨by omega, Nat.find_spec hexists⟩, fun n hn => ?_⟩, by omega⟩
  obtain ⟨k, rfl⟩ := Int.le.dest hn.1
  have hle := Nat.find_min' hexists hn.2
  omega

theorem uniqueId?_of_not_mem (h : candidate ∉ taken) :
    uniqueId? candidate taken = some candidate := if_neg h

theorem uniqueId?_of_mem (h : candidate ∈ taken) :
    uniqueId? candidate taken = firstFree? candidate taken Int32.size 2 := if_pos h

/-- The search stops at the first free number, unless the count goes round before it. -/
theorem uniqueId?_eq_first_iff (h : candidate ∈ taken) {n : Int}
    (hleast : IsLeast {n : Int | 2 ≤ n ∧ numbered candidate n ∉ taken} n) :
    uniqueId? candidate taken = some (numbered candidate n) ↔ n ≤ Int32.maxValue.toInt := by
  rw [uniqueId?_of_mem h, firstFree?_eq_some_iff]
  constructor
  · rintro ⟨k, -, hid, -⟩
    rw [← numbered_inj.1 hid]
    exact Int32.toInt_le _
  · intro hmax
    obtain ⟨k, rfl⟩ := Int.le.dest hleast.1.1
    refine ⟨k, ?_, tried_two hmax, ?_, fun j hj => ?_⟩
    · rw [Int32.toInt_maxValue] at hmax
      change k < 4294967296
      omega
    · rw [tried_two hmax]
      exact hleast.1.2
    · -- A smaller number that was free would be the least one.
      rw [tried_two (by omega)]
      by_contra hfree
      have hle := hleast.2 ⟨by omega, hfree⟩
      omega

theorem uniqueId?_eq_none_iff : uniqueId? candidate taken = none ↔
    candidate ∈ taken ∧ ∀ n : Int32, numbered candidate n.toInt ∈ taken := by
  by_cases h : candidate ∈ taken
  · simp only [uniqueId?_of_mem h, firstFree?_eq_none_iff, h, true_and]
  · simp only [uniqueId?_of_not_mem h, h, false_and, reduceCtorEq]

theorem uniqueId?_eq_some {id : String} (h : uniqueId? candidate taken = some id) :
    id ∉ taken ∧ (id = candidate ∨ ∃ n, id = numbered candidate n) := by
  by_cases hmem : candidate ∈ taken
  · rw [uniqueId?_of_mem hmem, firstFree?_eq_some_iff] at h
    obtain ⟨k, -, rfl, hfree, -⟩ := h
    exact ⟨hfree, .inr ⟨_, rfl⟩⟩
  · rw [uniqueId?_of_not_mem hmem, Option.some.injEq] at h
    exact ⟨h ▸ hmem, .inl h.symm⟩

end

/-! ## Names without folders -/

/-- A name that does not lead to another folder. -/
def IsFlat (name : String) : Prop := ∀ c ∈ name.toList, c ≠ '/' ∧ c ≠ '\\'

theorem isFlat_rootIdOf (file : String) : IsFlat (rootIdOf file) := by
  rw [IsFlat, rootIdOf, String.toList_ofList, List.forall_mem_map]
  intro c _
  by_cases h : c = '/' || c = '\\'
  · rw [if_pos h]
    decide
  · rw [if_neg h]
    simpa using h

theorem isFlat_repr (n : Nat) : IsFlat n.repr := by
  intro c hc
  have hdigit := Json.isDigit_of_mem_repr hc
  refine ⟨?_, ?_⟩ <;> rintro rfl <;> cases hdigit

theorem IsFlat.append {a b : String} (ha : IsFlat a) (hb : IsFlat b) : IsFlat (a ++ b) := by
  rw [IsFlat, String.toList_append, List.forall_mem_append]
  exact ⟨ha, hb⟩

theorem IsFlat.numbered {name : String} (h : IsFlat name) (n : Int) :
    IsFlat (Widgetry.numbered name n) := by
  refine (h.append (by simp [IsFlat, toString])).append ?_
  cases n with
  | ofNat m => exact isFlat_repr m
  | negSucc m => exact IsFlat.append (by simp [IsFlat]) (isFlat_repr (m + 1))

theorem IsFlat.uniqueId? {candidate id : String} {taken : List String} (h : IsFlat candidate)
    (hid : uniqueId? candidate taken = some id) : IsFlat id := by
  obtain rfl | ⟨n, rfl⟩ := (uniqueId?_eq_some hid).2
  · exact h
  · exact h.numbered n

/-! ## The ids of a run -/

theorem compileFile_eq_compiled {read : Path → Except FileFault String} {asWidget : Bool}
    {taken : List String} {path : Path} {name : String} {root : Root}
    (h : compileFile read asWidget taken path name = .compiled root) :
    ∃ text id program, uniqueId? (rootIdOf name) taken = some id ∧
      rootOf? text name id asWidget program = some root ∧ root.check = .ok () := by
  unfold compileFile at h
  split at h
  · cases h
  · rename_i text _
    split at h
    · cases h
    · rename_i id hid
      split at h
      · rename_i hcompiled
        cases h
        obtain ⟨program, hroot, hcheck⟩ := compileSource_eq_some hcompiled
        exact ⟨text, id, program, hid, hroot, hcheck⟩
      · cases h
      · cases h

theorem rootId_compileFile {read : Path → Except FileFault String} {asWidget : Bool}
    {taken : List String} {path : Path} {name : String} {root : Root}
    (h : compileFile read asWidget taken path name = .compiled root) :
    uniqueId? (rootIdOf name) taken = some root.rootId := by
  obtain ⟨text, id, program, hid, hroot, -⟩ := compileFile_eq_compiled h
  rw [hid]
  rcases rootOf?_cases hroot with ⟨_, -, rfl⟩ | ⟨_, _, _, -, -, rfl⟩ <;> rfl

/-- Every root of a project has passed its check. -/
theorem valid_of_mem_roots {disk : Disk} {options : Options} {output : CompileOutput}
    (h : compileProject disk options = .ok output) : ∀ root ∈ output.roots, root.Valid := by
  obtain ⟨files, -, rfl⟩ := compileProject_eq_ok h
  refine forall_mem_roots_compileFrom _ _ (fun path _ taken root hroot => ?_)
    (List.forall_mem_nil _)
  obtain ⟨text, id, program, -, -, hcheck⟩ := compileFile_eq_compiled hroot
  exact Root.check_eq_ok_iff.1 hcheck

/-- Ids that are different and stay in their folder. -/
structure WellNamed (ids : List String) : Prop where
  distinct : ids.Nodup
  flat : ∀ id ∈ ids, IsFlat id

theorem WellNamed.append_outcome {ids : List String} (h : WellNamed ids)
    (read : Path → Except FileFault String) (options : Options) (path : Path) :
    WellNamed (ids ++ (outcomeAfter read options ids path).root?.toList.map Root.rootId) := by
  cases houtcome : outcomeAfter read options ids path with
  | compiled root =>
    have hid := rootId_compileFile houtcome
    simp only [FileOutcome.root?, Option.toList_some, List.map_cons, List.map_nil]
    refine ⟨List.concat_eq_append ▸ h.distinct.concat (uniqueId?_eq_some hid).1,
      List.forall_mem_append.2 ⟨h.flat, ?_⟩⟩
    exact List.forall_mem_singleton.2 ((isFlat_rootIdOf _).uniqueId? hid)
  | rootless => simpa [FileOutcome.root?] using h
  | failed error => simpa [FileOutcome.root?] using h

theorem WellNamed.compileFrom {output : CompileOutput} (h : WellNamed output.rootIds)
    (read : Path → Except FileFault String) (options : Options) (files : List Path) :
    WellNamed (compileFrom read options output files).rootIds := by
  induction files generalizing output with
  | nil => exact h
  | cons path rest ih =>
    rw [Widgetry.compileFrom]
    refine ih ?_
    rw [CompileOutput.rootIds_add]
    exact h.append_outcome read options path

theorem wellNamed_rootIds {disk : Disk} {options : Options} {output : CompileOutput}
    (h : compileProject disk options = .ok output) : WellNamed output.rootIds := by
  obtain ⟨files, -, rfl⟩ := compileProject_eq_ok h
  have hempty : WellNamed (CompileOutput.rootIds {}) := ⟨List.nodup_nil, List.forall_mem_nil _⟩
  exact hempty.compileFrom disk.readText options files

/-- The search for an id gives the candidate if it is free. Otherwise there is a least number from two
on that is free, and the search gives the candidate with it if and only if it does not exceed the
largest number of 32 bits; it fails to end only if the candidate is taken with all of them. So the
roots of a project, whatever its files hold and however often they are named, have different ids, and
none of them leads to another folder. -/
theorem uniqueId?_least_and_rootIds_wellNamed :
    (∀ (candidate : String) (taken : List String),
      (candidate ∉ taken → uniqueId? candidate taken = some candidate) ∧
      (candidate ∈ taken → ∃ n : Int,
        IsLeast {n : Int | 2 ≤ n ∧ numbered candidate n ∉ taken} n ∧ n ≤ taken.length + 1 ∧
        (uniqueId? candidate taken = some (numbered candidate n) ↔ n ≤ Int32.maxValue.toInt)) ∧
      (uniqueId? candidate taken = none ↔
        candidate ∈ taken ∧ ∀ n : Int32, numbered candidate n.toInt ∈ taken)) ∧
    ∀ (disk : Disk) (options : Options) (output : CompileOutput),
      compileProject disk options = .ok output → WellNamed output.rootIds := by
  refine ⟨fun candidate taken => ⟨uniqueId?_of_not_mem, fun h => ?_, uniqueId?_eq_none_iff⟩,
    fun disk options output h => wellNamed_rootIds h⟩
  obtain ⟨n, hleast, hle⟩ := exists_isLeast_free h
  exact ⟨n, hleast, hle, uniqueId?_eq_first_iff h hleast⟩

/-- A folder in which one file has the name that another one gets when it is named twice. -/
def twinDisk : Disk where
  tree := .folder [("a.tsx", .file "<Text>x</Text>".toUTF8), ("a.tsx_2", .file "<View/>".toUTF8)]

theorem rootIds_wellNamed_twins : ∃ output,
    compileProject twinDisk { entries := some ["a.tsx_2", "a.tsx", "a.tsx"] } = .ok output ∧
      output.rootIds = ["a.tsx_2", "a.tsx", "a.tsx_3"] ∧ WellNamed output.rootIds ∧
      uniqueId? "b" output.rootIds = some "b" ∧
      ∃ n, uniqueId? "a.tsx" output.rootIds = some (numbered "a.tsx" n) ∧ n ≤ 4 := by
  obtain ⟨output, hcompiled, hids⟩ : ∃ output,
      compileProject twinDisk { entries := some ["a.tsx_2", "a.tsx", "a.tsx"] } = .ok output ∧
        output.rootIds = ["a.tsx_2", "a.tsx", "a.tsx_3"] :=
    ⟨_, compileProject_entries twinDisk {} _, by decide +kernel⟩
  obtain ⟨hsearch, hnames⟩ := uniqueId?_least_and_rootIds_wellNamed
  refine ⟨output, hcompiled, hids, hnames _ _ _ hcompiled, ?_⟩
  rw [hids]
  refine ⟨(hsearch "b" _).1 (by decide), ?_⟩
  obtain ⟨n, -, hbound, heq⟩ := (hsearch "a.tsx" ["a.tsx_2", "a.tsx", "a.tsx_3"]).2.1 (by decide)
  have hsmall : (4 : Int) ≤ Int32.maxValue.toInt := by decide
  exact ⟨n, heq.2 (hbound.trans hsmall), hbound⟩

/-- The ids under which a candidate is taken with every number from two to the largest one. -/
def crowd (candidate : String) : List String :=
  candidate :: (List.range 2147483646).map fun k : Nat => numbered candidate (2 + k)

theorem mem_crowd_iff {candidate : String} {n : Int} :
    numbered candidate n ∈ crowd candidate ↔ 2 ≤ n ∧ n ≤ Int32.maxValue.toInt := by
  simp only [crowd, List.mem_cons, numbered_ne_self, false_or, List.mem_map, List.mem_range,
    numbered_inj, Int32.toInt_maxValue]
  constructor
  · rintro ⟨k, hk, rfl⟩
    omega
  · rintro ⟨hle, hmax⟩
    obtain ⟨k, rfl⟩ := Int.le.dest hle
    exact ⟨k, by omega, rfl⟩

/-- In a crowd the least free number is too large, and the search goes on with the smallest one. -/
theorem uniqueId?_crowd :
    "a" ∈ crowd "a" ∧ IsLeast {n : Int | 2 ≤ n ∧ numbered "a" n ∉ crowd "a"} 2147483648 ∧
      uniqueId? "a" (crowd "a") = some "a_-2147483648" ∧
      uniqueId? "a" (crowd "a") ≠ some (numbered "a" 2147483648) := by
  have htaken : "a" ∈ crowd "a" := List.mem_cons_self
  have hleast : IsLeast {n : Int | 2 ≤ n ∧ numbered "a" n ∉ crowd "a"} 2147483648 := by
    simp only [mem_crowd_iff, Int32.toInt_maxValue]
    refine ⟨⟨by decide, by omega⟩, ?_⟩
    rintro n ⟨hn, hfree⟩
    omega
  refine ⟨htaken, hleast, ?_, ?_⟩
  · rw [uniqueId?_of_mem htaken, firstFree?_eq_some_iff]
    refine ⟨2147483646, by decide, by decide +kernel, ?_, fun j hj => ?_⟩
    · rw [tried, mem_crowd_iff]
      decide
    · have hmax : 2 + (j : Int) ≤ Int32.maxValue.toInt := by
        rw [Int32.toInt_maxValue]
        omega
      rw [tried_two hmax, mem_crowd_iff]
      exact ⟨by omega, hmax⟩
  · rw [Ne, uniqueId?_eq_first_iff htaken hleast]
    decide

end Widgetry
