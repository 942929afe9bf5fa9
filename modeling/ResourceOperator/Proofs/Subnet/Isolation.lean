import ResourceOperator.Subnet.Mapping

/-!
# The way of sizing that is not used

A subnet in the cloud has a number of addresses and a block. A declaration is sized by one of the
two, and has no business with the other: it can neither give it nor be asked to change it. So the
other one is hidden from it (`Remote.seen`). No operation on declaration and subnet notices: each
comes to the same for the subnet as for what is seen of it. Subnets that differ in nothing but what
is hidden are therefore not told apart, and what is filled in or reported is of the way of sizing
that the declaration uses.

What is seen is not disregarded. The field that a way of sizing has of its own is reported exactly
where the declaration gives it and the subnet has another one.

Results:
* `parameters_seen`, `lateInitialize_seen`, `changedFields_seen`, `driftedFields_seen`,
  `patch_seen`: each operation looks at what is seen.
* `branch_lateInitialize`: the way of sizing is never changed.
* `count_drifted_iff`, `block_drifted_iff`: when the size of a subnet is reported.
* `branches_isolated`: these together, for two subnets that differ in what is hidden.
-/

namespace ResourceOperator.Subnet

variable {p : Parameters} {s t : Remote} {b : Branch}

/-! ## What is seen of a subnet -/

/-- A subnet without the size that a way of sizing has nothing to do with. -/
def Remote.seen (s : Remote) : Branch → Remote
  | .byTotalCount => { s with ipv4CidrBlock := "" }
  | .byCidr => { s with totalIpv4AddressCount := 0 }

/-- Two subnets that differ at most in the size that a way of sizing has nothing to do with. -/
inductive OtherwiseSized : Branch → Remote → Remote → Prop where
  | block (s : Remote) (block : String) :
    OtherwiseSized .byTotalCount s { s with ipv4CidrBlock := block }
  | count (s : Remote) (count : Int) :
    OtherwiseSized .byCidr s { s with totalIpv4AddressCount := count }

theorem OtherwiseSized.seen_eq (h : OtherwiseSized b s t) : t.seen b = s.seen b := by
  cases h <;> rfl

theorem parameters_seen (s : Remote) (b : Branch) : (s.seen b).parameters b = s.parameters b := by
  cases b <;> rfl

theorem Common.lateInitialize_seen (c : Common) (s : Remote) (b : Branch) :
    c.lateInitialize (s.seen b) = c.lateInitialize s := by
  cases b <;> rfl

theorem Sizing.lateInitialize_seen (sizing : Sizing) (s : Remote) :
    sizing.lateInitialize (s.seen sizing.branch) = sizing.lateInitialize s := by
  cases sizing <;> rfl

theorem lateInitialize_seen (p : Parameters) (s : Remote) :
    p.lateInitialize (s.seen p.branch) = p.lateInitialize s := by
  unfold Parameters.lateInitialize
  rw [Common.lateInitialize_seen, Parameters.branch, Sizing.lateInitialize_seen]

theorem changedFields_seen (p : Parameters) (s : Remote) :
    p.changedFields (s.seen p.branch) = p.changedFields s := by
  unfold Parameters.changedFields
  rw [parameters_seen]

theorem driftedFields_seen (p : Parameters) (s : Remote) :
    p.driftedFields (s.seen p.branch) = p.driftedFields s := by
  unfold Parameters.driftedFields
  rw [parameters_seen]

theorem isUpToDate_seen (p : Parameters) (s : Remote) :
    p.isUpToDate (s.seen p.branch) = p.isUpToDate s :=
  congrArg List.isEmpty (changedFields_seen p s)

theorem patch_seen (p : Parameters) (s : Remote) : p.patch (s.seen p.branch) = p.patch s := by
  unfold Parameters.patch
  rw [changedFields_seen]

/-! ## What becomes of a declaration -/

/-- The way of sizing is never changed. -/
theorem branch_lateInitialize (p : Parameters) (s : Remote) :
    (p.lateInitialize s).value.branch = p.branch := by
  obtain ⟨common, sizing⟩ := p
  cases sizing <;> rfl

/-! ## What is reported -/

/-- A size is reported where the ways of sizing differ in it: what is compared besides is no size. -/
theorem mem_driftedFields_iff {f : FixedField}
    (hf : f = .totalIpv4AddressCount ∨ f = .ipv4CidrBlock) :
    f ∈ p.driftedFields s ↔ f ∈ Sizing.drifted p.sizing (s.parameters p.branch).sizing := by
  unfold Parameters.driftedFields
  dsimp only
  rw [List.mem_append, List.mem_append, List.mem_append, List.mem_ite_nil_left,
    List.mem_ite_nil_right, List.mem_ite_nil_right]
  rcases hf with rfl | rfl <;> simp

/-- A number of addresses is reported where one is declared and the subnet has another one. -/
theorem count_drifted_iff : .totalIpv4AddressCount ∈ p.driftedFields s ↔
    ∃ count zone, p.sizing = .byTotalCount count zone ∧ count ≠ 0 ∧
      count ≠ s.totalIpv4AddressCount := by
  rw [mem_driftedFields_iff (.inl rfl)]
  obtain ⟨common, sizing⟩ := p
  cases sizing with
  | byTotalCount count zone =>
    simp [Parameters.branch, Sizing.branch, Remote.parameters, Sizing.drifted]
  | byCidr block zone =>
    simp [Parameters.branch, Sizing.branch, Remote.parameters, Sizing.drifted]

/-- A block is reported where one is declared and the subnet has another one. -/
theorem block_drifted_iff : .ipv4CidrBlock ∈ p.driftedFields s ↔
    ∃ block zone, p.sizing = .byCidr block zone ∧ block ≠ "" ∧ block ≠ s.ipv4CidrBlock := by
  rw [mem_driftedFields_iff (.inr rfl)]
  obtain ⟨common, sizing⟩ := p
  cases sizing with
  | byTotalCount count zone =>
    simp [Parameters.branch, Sizing.branch, Remote.parameters, Sizing.drifted]
  | byCidr block zone =>
    have hblock : unsetOrEqual (some block) (some s.ipv4CidrBlock) = false ↔
        block ≠ "" ∧ block ≠ s.ipv4CidrBlock := by
      rw [← Bool.not_eq_true, unsetOrEqual, Bool.or_eq_true, String.isEmpty_iff, beq_iff_eq,
        Option.some_inj, not_or]
      exact and_congr_right fun _ => not_congr eq_comm
    simp [Parameters.branch, Sizing.branch, Remote.parameters, Sizing.drifted, hblock]

/-! ## Two subnets -/

/-- **The ways of sizing are isolated.** Late initialization never changes the way of sizing of a
declaration. Let two subnets differ at most in the size that this way has nothing to do with. Then
late initialization makes the same of the declaration and marks it as changed or not alike, the same
fields disagree, the same fixed fields are reported, and the update is the same. The size that the
way of sizing does have is reported exactly where it is declared and the subnet has another one, and
the other size never is. -/
theorem branches_isolated (p : Parameters) :
    (∀ s, (p.lateInitialize s).value.branch = p.branch) ∧
    (∀ s t, OtherwiseSized p.branch s t →
      p.lateInitialize t = p.lateInitialize s ∧
      p.changedFields t = p.changedFields s ∧
      p.driftedFields t = p.driftedFields s ∧
      p.isUpToDate t = p.isUpToDate s ∧
      p.patch t = p.patch s) ∧
    (∀ s, .totalIpv4AddressCount ∈ p.driftedFields s ↔
      ∃ count zone, p.sizing = .byTotalCount count zone ∧ count ≠ 0 ∧
        count ≠ s.totalIpv4AddressCount) ∧
    (∀ s, .ipv4CidrBlock ∈ p.driftedFields s ↔
      ∃ block zone, p.sizing = .byCidr block zone ∧ block ≠ "" ∧ block ≠ s.ipv4CidrBlock) := by
  refine ⟨branch_lateInitialize p, fun s t h => ?_, fun _ => count_drifted_iff,
    fun _ => block_drifted_iff⟩
  have hseen := h.seen_eq
  refine ⟨?_, ?_, ?_, ?_, ?_⟩
  · rw [← lateInitialize_seen, hseen, lateInitialize_seen]
  · rw [← changedFields_seen, hseen, changedFields_seen]
  · rw [← driftedFields_seen, hseen, driftedFields_seen]
  · rw [← isUpToDate_seen, hseen, isUpToDate_seen]
  · rw [← patch_seen, hseen, patch_seen]

/-- A declared subnet that says how it is sized, and nothing else. -/
def unnamedSubnet (sizing : Sizing) : Parameters :=
  ⟨⟨none, none, none, none, none, none, none, none, none⟩, sizing⟩

/-- A subnet of some number of addresses in some block. -/
def sizedSubnet (count : Int) (block : String) : Remote :=
  ⟨"s-1", "", "", "apps", "ipv4", block, 251, count, .available, none, none, none, none, none,
    ⟨"v-1", "", "", "net"⟩, ⟨"us-south-1", ""⟩⟩

/-- A declaration by number of addresses does not notice another block, and one by block does not
notice another number. Each has its own size reported. -/
theorem otherSize_not_noticed :
    OtherwiseSized .byTotalCount (sizedSubnet 256 "10.0.0.0/24") (sizedSubnet 256 "10.9.0.0/24") ∧
    ((unnamedSubnet (.byTotalCount 512 "")).lateInitialize
      (sizedSubnet 256 "10.9.0.0/24")).value.sizing = .byTotalCount 512 "us-south-1" ∧
    (unnamedSubnet (.byTotalCount 512 "")).driftedFields (sizedSubnet 256 "10.9.0.0/24") =
      [.totalIpv4AddressCount] ∧
    OtherwiseSized .byCidr (sizedSubnet 256 "10.9.0.0/24") (sizedSubnet 512 "10.9.0.0/24") ∧
    (unnamedSubnet (.byCidr "10.0.0.0/24" none)).driftedFields (sizedSubnet 512 "10.9.0.0/24") =
      [.ipv4CidrBlock] := by
  have hcount : OtherwiseSized .byTotalCount (sizedSubnet 256 "10.0.0.0/24")
      (sizedSubnet 256 "10.9.0.0/24") := .block _ "10.9.0.0/24"
  have hblock : OtherwiseSized .byCidr (sizedSubnet 256 "10.9.0.0/24")
      (sizedSubnet 512 "10.9.0.0/24") := .count _ 512
  obtain ⟨-, hcounted, -, -⟩ := branches_isolated (unnamedSubnet (.byTotalCount 512 ""))
  obtain ⟨-, hblocked, -, -⟩ := branches_isolated (unnamedSubnet (.byCidr "10.0.0.0/24" none))
  obtain ⟨hlate, -, hdrifted, -⟩ := hcounted _ _ hcount
  obtain ⟨-, -, hdrifted', -⟩ := hblocked _ _ hblock
  refine ⟨hcount, ?_, hdrifted.trans ?_, hblock, hdrifted'.trans ?_⟩
  · rw [hlate]
    decide +kernel
  · decide +kernel
  · decide +kernel

end ResourceOperator.Subnet
