import Mathlib.Algebra.Ring.Int.Defs
import ResourceOperator.Proofs.Json.Names
import ResourceOperator.Proofs.ReadBack
import ResourceOperator.Subnet.Mapping

/-!
# Requests for subnets

A subnet can be created from a declaration that says where it is to be, and how large: it needs a
network, and then either a number of addresses with a zone, or a block that can be read. Whatever is
missing is reported as a configuration that makes no sense, and nothing else can go wrong.

The number of addresses has to be a power of two. This is decided on a signed word of 64 bits: a
number has no bit in common with the number before it exactly if it has a single bit. The word with
the least number has a single bit as well, the one of its sign, but it is not positive; for a
positive number the one before it is a word too, so that no difference overflows.

A request says what the declaration says, in its way of sizing. Identities keep the representation
that they are declared in, and what is absent or empty is not written at all.

Results:
* `and_sub_one_eq_zero_iff`, `isPowerOfTwo_iff`: the test of a word, and of a number of addresses.
* `requested`: the ways in which a request comes out, with the error of the first thing that is
  missing.
* `Requested.isFor`: a request that is made says what is requested of it, and nothing else.
* `requested_exactly`: which declarations a subnet is created from, and what the request says.
* `largestCount_requested`: this for the largest and the least number of addresses.
-/

namespace ResourceOperator

/-- The integers that can be read are those of a signed word. -/
theorem Json.read_int64_iff {n : Int} : Json.Read int64 n ↔ -2 ^ 63 ≤ n ∧ n < 2 ^ 63 := by
  constructor
  · rintro ⟨v, hv⟩
    unfold int64 integer at hv
    split at hv
    · split at hv
      · next hrange =>
        cases hv
        omega
      · cases hv
    · cases hv
  · intro hn
    have hrange : -9223372036854775808 ≤ n ∧ n ≤ 9223372036854775807 := by omega
    exact ⟨ofInt n, if_pos hrange⟩

namespace Subnet

open Cloud Json

/-! ## Powers of two -/

/-- The number before a positive one is a word. -/
theorem toInt_sub_one {w : Int64} (h : 0 < w.toInt) : (w - 1).toInt = w.toInt - 1 := by
  have hlt : w.toInt < 2 ^ 63 := w.toInt_lt
  have hpred : w - 1 = Int64.ofInt (w.toInt - 1) := by
    rw [Int64.ofInt_sub, Int64.ofInt_toInt]
    rfl
  rw [hpred, Int64.toInt_ofInt_of_le (by omega) (by omega)]

theorem ofNat_and_ofNat (m n : Nat) : Int64.ofNat m &&& Int64.ofNat n = Int64.ofNat (m &&& n) := by
  refine Int64.toBitVec_inj.mp ?_
  rw [Int64.toBitVec_and]
  exact BitVec.ofNat_and.symm

/-- A positive word has no bit in common with the one before it if it has a single bit. -/
theorem and_sub_one_eq_zero_iff {w : Int64} (h : 0 < w.toInt) :
    w &&& (w - 1) = 0 ↔ ∃ k : Nat, w.toInt = 2 ^ k := by
  have hlt : w.toInt < 2 ^ 63 := w.toInt_lt
  obtain ⟨n, hn⟩ : ∃ n : Nat, w.toInt = n := ⟨w.toInt.toNat, by omega⟩
  have hw : w = Int64.ofNat n := by
    rw [← Int64.ofInt_toInt w, hn, Int64.ofInt_eq_ofNat]
  have hpred : w - 1 = Int64.ofNat (n - 1) := by
    have hint : (w - 1).toInt = ((n - 1 : Nat) : Int) := by
      rw [toInt_sub_one h, hn]
      omega
    rw [← Int64.ofInt_toInt (w - 1), hint, Int64.ofInt_eq_ofNat]
  have hand : w &&& (w - 1) = Int64.ofNat (n &&& (n - 1)) := by
    rw [hpred, hw, ofNat_and_ofNat]
  have hsmall : n &&& (n - 1) < 2 ^ 63 := Nat.and_lt_two_pow n (by omega)
  have hzero : Int64.ofNat (n &&& (n - 1)) = 0 ↔ n &&& (n - 1) = 0 := by
    rw [← Int64.toInt_inj, Int64.toInt_ofNat_of_lt hsmall]
    exact Int.natCast_eq_zero
  rw [hand, hzero, Nat.and_sub_one_eq_zero_iff_isPowerOfTwo (by omega), hn]
  unfold Nat.isPowerOfTwo
  norm_cast

/-- A number of addresses that a word can hold passes the test if it is a power of two. -/
theorem isPowerOfTwo_iff {n : Int} (hn : Json.Read int64 n) :
    isPowerOfTwo n = true ↔ ∃ k : Nat, n = 2 ^ k := by
  obtain ⟨hlow, hhigh⟩ := read_int64_iff.mp hn
  have hword : (Int64.ofInt n).toInt = n := Int64.toInt_ofInt_of_le hlow hhigh
  have hpositive : 0 < Int64.ofInt n ↔ 0 < n := by
    rw [Int64.lt_iff_toInt_lt, hword]
    rfl
  unfold isPowerOfTwo
  dsimp only
  rw [Bool.and_eq_true, decide_eq_true_iff, beq_iff_eq, hpositive]
  constructor
  · rintro ⟨hpos, hand⟩
    have hpow := (and_sub_one_eq_zero_iff (hword.symm ▸ hpos)).mp hand
    rwa [hword] at hpow
  · rintro ⟨k, rfl⟩
    have hpos : (0 : Int) < 2 ^ k := Int.pow_pos (by decide)
    exact ⟨hpos, (and_sub_one_eq_zero_iff (hword.symm ▸ hpos)).mpr ⟨k, hword⟩⟩

/-! ## What can be created -/

/-- There is an identity, and it has a value. -/
def Given (i : Option Identity) : Prop :=
  ∃ given, i = some given ∧ given.value ≠ ""

/-- A size that a subnet can have: a power of two in a zone, or a block that can be read. -/
inductive Sizing.Feasible (readBlock : String → Except Net.Block.Error Net.Block) :
    Sizing → Prop where
  | byTotalCount (k : Nat) {zone : String} (hzone : zone ≠ "") :
    Feasible readBlock (.byTotalCount (2 ^ k) zone)
  | byCidr {block : String} {b : Net.Block} (hblock : readBlock block = .ok b)
    (zone : Option String) : Feasible readBlock (.byCidr block zone)

/-- A subnet can be created from a declaration. -/
structure Parameters.Feasible (readBlock : String → Except Net.Block.Error Net.Block)
    (p : Parameters) : Prop where
  vpc : Given p.common.vpc
  sizing : p.sizing.Feasible readBlock

theorem requestName_of_given {i : Option Identity} {given : Identity} (h : i = some given)
    (hne : given.value ≠ "") : requestName i = some (.ofIdentity given) := by
  have hkeep : (!given.isEmpty) = true := by simpa [Identity.isEmpty] using hne
  rw [h, requestName, Option.filter_some, if_pos hkeep]
  rfl

theorem requestName_of_not_given {i : Option Identity} (h : ¬ Given i) : requestName i = none := by
  cases i with
  | none => rfl
  | some given =>
    have hempty : given.value = "" := Classical.not_not.mp fun hne => h ⟨given, rfl, hne⟩
    have hdrop : ¬ (!given.isEmpty) = true := by simp [Identity.isEmpty, hempty]
    rw [requestName, Option.filter_some, if_neg hdrop]
    rfl

/-- What comes of a request. The network is looked at first, then the number of addresses, and then
the zone. -/
inductive Requested (readBlock : String → Except Net.Block.Error Net.Block) (p : Parameters) :
    Except EngineError Request → Prop where
  | unplaced (hvpc : ¬ Given p.common.vpc) : Requested readBlock p
      (.error (.invalidConfiguration "subnet has no VPC; set vpc, vpcRef or vpcSelector"))
  | uneven {count : Int} {zone : String} (hsizing : p.sizing = .byTotalCount count zone)
    (hcount : ¬ ∃ k : Nat, count = 2 ^ k) : Requested readBlock p
      (.error (.invalidConfiguration
        ("totalIpv4AddressCount must be a power of two, got " ++ toString count)))
  | zoneless {count : Int} (hsizing : p.sizing = .byTotalCount count "") : Requested readBlock p
      (.error (.invalidConfiguration "zone is required when sizing a subnet by address count"))
  | unreadable {block : String} {zone : Option String} {e : Net.Block.Error}
    (hsizing : p.sizing = .byCidr block zone) (hblock : readBlock block = .error e) :
    Requested readBlock p
      (.error (.invalidConfiguration ("invalid ipv4CidrBlock " ++ block ++ ": " ++ e.message)))
  | byTotalCount {vpc : Identity} (hvpc : p.common.vpc = some vpc) (hne : vpc.value ≠ "") {k : Nat}
    {zone : String} (hsizing : p.sizing = .byTotalCount (2 ^ k) zone) (hzone : zone ≠ "") :
    Requested readBlock p (.ok (.byTotalCount (p.common.request (.ofIdentity vpc)) (2 ^ k) ⟨zone⟩))
  | byCidr {vpc : Identity} (hvpc : p.common.vpc = some vpc) (hne : vpc.value ≠ "") {block : String}
    {zone : Option String} {b : Net.Block} (hsizing : p.sizing = .byCidr block zone)
    (hblock : readBlock block = .ok b) :
    Requested readBlock p (.ok (.byCidr (p.common.request (.ofIdentity vpc)) block
      ((requestText zone).map ZoneName.mk)))

variable {readBlock : String → Except Net.Block.Error Net.Block} {p : Parameters} {r : Request}

/-- How a request comes out, for every number of addresses that a word can hold. -/
theorem requested (readBlock : String → Except Net.Block.Error Net.Block) (hp : p.sizing.Read) :
    Requested readBlock p (p.requestWith readBlock) := by
  unfold Parameters.requestWith
  by_cases hgiven : Given p.common.vpc
  · obtain ⟨vpc, hvpc, hne⟩ := hgiven
    rw [requestName_of_given hvpc hne]
    dsimp only
    cases hsizing : p.sizing with
    | byTotalCount count zone =>
      rw [hsizing] at hp
      dsimp only
      by_cases hcount : ∃ k : Nat, count = 2 ^ k
      · rw [(isPowerOfTwo_iff hp).mpr hcount]
        obtain ⟨k, rfl⟩ := hcount
        by_cases hzone : zone = ""
        · subst hzone
          exact .zoneless hsizing
        · have hset : ¬ zone.isEmpty = true := fun e => hzone (String.isEmpty_iff.mp e)
          rw [if_neg (by decide), if_neg hset]
          exact .byTotalCount hvpc hne hsizing hzone
      · have htest : ¬ isPowerOfTwo count = true := fun e => hcount ((isPowerOfTwo_iff hp).mp e)
        rw [if_pos (by simpa using htest)]
        exact .uneven hsizing hcount
    | byCidr block zone =>
      dsimp only
      cases hblock : readBlock block with
      | error e => exact .unreadable hsizing hblock
      | ok b => exact .byCidr hvpc hne hsizing hblock
  · rw [requestName_of_not_given hgiven]
    exact .unplaced hgiven

/-! ## What a request says -/

/-- What a text is written as: nothing where it is absent or empty. -/
def writtenText : Option String → Option Json
  | none => none
  | some s => if s = "" then none else some (.string s)

/-- What an identity is written as: its value under the representation that it is declared in, and
nothing where it is absent or empty. -/
def writtenIdentity : Option Identity → Option Json
  | none => none
  | some i => if i.value = "" then none else some (.object [(i.form.name, .string i.value)])

/-- What the zone of a way of sizing is written as. -/
def Sizing.writtenZone : Sizing → Option Json
  | .byTotalCount _ zone => some (.object [("name", .string zone)])
  | .byCidr _ zone => (writtenText zone).map fun name => .object [("name", name)]

/-- The number of addresses of a way of sizing, if it has one. -/
def Sizing.count? : Sizing → Option Int
  | .byTotalCount count _ => some count
  | .byCidr _ _ => none

/-- The block of a way of sizing, if it has one. -/
def Sizing.block? : Sizing → Option String
  | .byTotalCount _ _ => none
  | .byCidr block _ => some block

/-- What the request for a declared subnet says under a name, and nothing under any other. -/
def Parameters.requested (p : Parameters) : String → Option Json
  | "name" => writtenText p.common.name
  | "ip_version" => writtenText p.common.ipVersion
  | "network_acl" => writtenIdentity p.common.networkAcl
  | "public_gateway" => writtenIdentity p.common.publicGateway
  | "resource_group" => writtenIdentity p.common.resourceGroup
  | "routing_table" => writtenIdentity p.common.routingTable
  | "vpc" => writtenIdentity p.common.vpc
  | "total_ipv4_address_count" => p.sizing.count?.map .ofInt
  | "ipv4_cidr_block" => p.sizing.block?.map .string
  | "zone" => p.sizing.writtenZone
  | _ => none

/-- All names under which a request says something, in order. -/
def requestNames : Branch → List String
  | .byTotalCount => ["ip_version", "name", "network_acl", "public_gateway", "resource_group",
      "routing_table", "total_ipv4_address_count", "vpc", "zone"]
  | .byCidr => ["ip_version", "ipv4_cidr_block", "name", "network_acl", "public_gateway",
      "resource_group", "routing_table", "vpc", "zone"]

/-- The way of sizing that a request is made for. -/
def Request.branch : Request → Branch
  | .byTotalCount _ _ _ => .byTotalCount
  | .byCidr _ _ _ => .byCidr

/-- A request is for a declaration: it is of the same way of sizing, and is written as an object
that has what is requested under each name, once. -/
structure Request.For (r : Request) (p : Parameters) : Prop where
  branch : r.branch = p.branch
  written : ∃ members, r.encode = .object members ∧ Table.Sorted members ∧
    ∀ key, Table.get? key members = p.requested key

theorem requestText_written (s : Option String) : (requestText s).map .string = writtenText s := by
  cases s with
  | none => rfl
  | some s =>
    unfold requestText writtenText
    by_cases h : s = "" <;> simp [h]

theorem encode_ofIdentity (i : Identity) :
    (ObjectName.ofIdentity i).encode = .object [(i.form.name, .string i.value)] := by
  obtain ⟨form, value⟩ := i
  cases form <;> rfl

theorem requestName_written (i : Option Identity) :
    (requestName i).map ObjectName.encode = writtenIdentity i := by
  cases i with
  | none => rfl
  | some i =>
    unfold requestName writtenIdentity
    by_cases h : i.value = "" <;> simp [Identity.isEmpty, h, encode_ofIdentity]

/-- The name of a network that is given is written as it is declared. -/
theorem encode_vpc {vpc : Identity} (hvpc : p.common.vpc = some vpc) (hne : vpc.value ≠ "") :
    some (ObjectName.ofIdentity vpc).encode = writtenIdentity p.common.vpc := by
  rw [hvpc, encode_ofIdentity, writtenIdentity, if_neg hne]

theorem zone_written (zone : Option String) :
    ((requestText zone).map ZoneName.mk).map ZoneName.encode =
      (writtenText zone).map fun name => .object [("name", name)] := by
  rw [← requestText_written, Option.map_map, Option.map_map]
  rfl

variable {members : Table Json}

/-- A request has members of its way of sizing only. -/
theorem names_members (hm : r.encode = .object members) :
    Json.Names members (requestNames r.branch) := by
  cases r with
  | byTotalCount c count zone =>
    cases hm
    exact ((((((names_member.append names_nil).append names_member).append names_member).append
      names_member).append names_member).append names_member).append names_single.cons.cons
  | byCidr c block zone =>
    cases hm
    exact ((((((names_member.append names_single).append names_member).append names_member).append
      names_member).append names_member).append names_member).append names_member.cons

theorem sorted_members (hm : r.encode = .object members) : Table.Sorted members := by
  have hnames : (requestNames r.branch).Pairwise (· < ·) := by
    cases r.branch <;> decide
  exact List.pairwise_map.mp (hnames.sublist (names_members hm))

theorem get?_of_not_mem_names (hm : r.encode = .object members) {key : String}
    (hkey : key ∉ requestNames r.branch) : Table.get? key members = none := by
  cases hget : Table.get? key members with
  | none => rfl
  | some v => exact absurd ((names_members hm).subset (Table.mem_keys_of_get? hget)) hkey

/-- A request that is made is of the way of sizing of its declaration. -/
theorem Requested.branch_eq (h : Requested readBlock p (.ok r)) : r.branch = p.branch := by
  cases h with
  | byTotalCount _ _ hsizing _ | byCidr _ _ hsizing _ =>
    rw [Parameters.branch, hsizing]
    rfl

/-- A request that is made says what is requested. -/
theorem Requested.get?_members (h : Requested readBlock p (.ok r))
    (hm : r.encode = .object members) (key : String) :
    Table.get? key members = p.requested key := by
  unfold Parameters.requested
  split
  case h_11 =>
    -- every other name
    refine get?_of_not_mem_names hm ?_
    cases r.branch <;> simp [requestNames] <;> and_intros <;> assumption
  all_goals
    cases h with
    | @byTotalCount vpc hvpc hne k zone hsizing hzone =>
      cases hm
      simp [Table.get?_append, Request.common, Common.request, requestText_written,
        requestName_written, encode_vpc hvpc hne, hsizing, Sizing.count?, Sizing.block?,
        Sizing.writtenZone, ZoneName.encode]
    | @byCidr vpc hvpc hne block zone b hsizing hblock =>
      cases hm
      simp [Table.get?_append, Request.common, Common.request, requestText_written,
        requestName_written, encode_vpc hvpc hne, hsizing, Sizing.count?, Sizing.block?,
        Sizing.writtenZone, zone_written, -Option.map_map]

/-- A request that is made is for its declaration. -/
theorem Requested.isFor (h : Requested readBlock p (.ok r)) : r.For p :=
  ⟨h.branch_eq, _, rfl, sorted_members rfl, h.get?_members rfl⟩

/-! ## Which requests are made -/

/-- A request is made, or the configuration is refused. -/
theorem made_or_refused (readBlock : String → Except Net.Block.Error Net.Block)
    (hp : p.sizing.Read) :
    (∃ r, p.requestWith readBlock = .ok r) ∨
      ∃ message, p.requestWith readBlock = .error (.invalidConfiguration message) := by
  have h := requested readBlock hp
  generalize p.requestWith readBlock = out at h
  cases h with
  | byTotalCount | byCidr => exact .inl ⟨_, rfl⟩
  | unplaced | uneven | zoneless | unreadable => exact .inr ⟨_, rfl⟩

theorem not_made (e : EngineError) : ¬ ∃ r, (.error e : Except EngineError Request) = .ok r := by
  rintro ⟨r, hr⟩
  cases hr

theorem Parameters.Feasible.sizing_of_eq {sizing : Sizing} (h : p.Feasible readBlock)
    (hsizing : p.sizing = sizing) : sizing.Feasible readBlock :=
  hsizing ▸ h.sizing

/-- A request is made for what can be created. -/
theorem made_iff_feasible (readBlock : String → Except Net.Block.Error Net.Block)
    (hp : p.sizing.Read) :
    (∃ r, p.requestWith readBlock = .ok r) ↔ p.Feasible readBlock := by
  have h := requested readBlock hp
  generalize p.requestWith readBlock = out at h
  cases h with
  | unplaced hvpc => exact iff_of_false (not_made _) fun h => hvpc h.vpc
  | uneven hsizing hcount =>
    refine iff_of_false (not_made _) fun h => ?_
    cases h.sizing_of_eq hsizing with
    | byTotalCount k => exact hcount ⟨k, rfl⟩
  | zoneless hsizing =>
    refine iff_of_false (not_made _) fun h => ?_
    cases h.sizing_of_eq hsizing with
    | byTotalCount _ hzone => exact hzone rfl
  | unreadable hsizing hblock =>
    refine iff_of_false (not_made _) fun h => ?_
    cases h.sizing_of_eq hsizing with
    | byCidr hread => exact absurd (hblock.symm.trans hread) nofun
  | byTotalCount hvpc hne hsizing hzone =>
    refine iff_of_true ⟨_, rfl⟩ ⟨⟨_, hvpc, hne⟩, ?_⟩
    rw [hsizing]
    exact .byTotalCount _ hzone
  | byCidr hvpc hne hsizing hblock =>
    refine iff_of_true ⟨_, rfl⟩ ⟨⟨_, hvpc, hne⟩, ?_⟩
    rw [hsizing]
    exact .byCidr hblock _

/-- **A request is made exactly for what can be created.** Let the number of addresses be one that
can be read, which is any of a signed word of 64 bits, and let blocks be read in any way. A request
is made if there is a network, and a number of addresses that is a power of two with a zone, or a
block that can be read. In every other case the configuration is refused. A request that is made is
of the way of sizing of the declaration, and says of it what is requested: each identity that has a
value in the representation that it is declared in, and nothing of what is absent or empty, or of
the other way of sizing. The one difference of words that the test takes, that of a positive number
and one, does not overflow. -/
theorem requested_exactly (readBlock : String → Except Net.Block.Error Net.Block)
    (hp : p.sizing.Read) :
    ((∃ r, p.requestWith readBlock = .ok r) ↔ p.Feasible readBlock) ∧
    (¬ p.Feasible readBlock →
      ∃ message, p.requestWith readBlock = .error (.invalidConfiguration message)) ∧
    (∀ r, p.requestWith readBlock = .ok r → r.For p) ∧
    (∀ count zone, p.sizing = .byTotalCount count zone → 0 < count →
      (Int64.ofInt count - 1).toInt = count - 1) := by
  refine ⟨made_iff_feasible readBlock hp, ?_, ?_, ?_⟩
  · intro hinfeasible
    rcases made_or_refused readBlock hp with hmade | hrefused
    · exact absurd ((made_iff_feasible readBlock hp).mp hmade) hinfeasible
    · exact hrefused
  · intro r hr
    have h := requested readBlock hp
    rw [hr] at h
    exact h.isFor
  · intro count zone hsizing hpos
    rw [hsizing] at hp
    obtain ⟨hlow, hhigh⟩ := read_int64_iff.mp hp
    have hword : (Int64.ofInt count).toInt = count := Int64.toInt_ofInt_of_le hlow hhigh
    rw [toInt_sub_one (hword.symm ▸ hpos), hword]

/-- A declared subnet of some number of addresses, whose network is given by its resource name and
whose routing table by its URL, with an empty name and an empty network ACL. -/
def countedSubnet (count : Int) : Parameters :=
  ⟨⟨some "", none, some ⟨.crn, ""⟩, none, none, some ⟨.href, "https://iaas/v1/routing_tables/rt-1"⟩,
    some ⟨.crn, "crn:v1:vpc:v-1"⟩, none, none⟩, .byTotalCount count "us-south-1"⟩

/-- A subnet can be as large as the greatest power of two that a word can hold, and what is empty is
not written; the least number of a word is refused. -/
theorem largestCount_requested :
    (∃ r members, (countedSubnet 4611686018427387904).request = .ok r ∧
      r.encode = .object members ∧
      Table.get? "routing_table" members =
        some (.object [("href", .string "https://iaas/v1/routing_tables/rt-1")]) ∧
      Table.get? "network_acl" members = none ∧ Table.get? "name" members = none) ∧
    ∃ message, (countedSubnet (-9223372036854775808)).request =
      .error (.invalidConfiguration message) := by
  have hlargest : (countedSubnet 4611686018427387904).sizing.Read :=
    read_int64_iff.mpr (by decide)
  have hleast : (countedSubnet (-9223372036854775808)).sizing.Read :=
    read_int64_iff.mpr (by decide)
  have hfeasible : (countedSubnet 4611686018427387904).Feasible Net.Block.parse :=
    ⟨⟨_, rfl, by decide⟩, .byTotalCount 62 (by decide)⟩
  have hinfeasible : ¬ (countedSubnet (-9223372036854775808)).Feasible Net.Block.parse := by
    intro h
    generalize hcount : (countedSubnet (-9223372036854775808)).sizing = sizing
    cases h.sizing_of_eq hcount with
    | byTotalCount k =>
      have hpos : (0 : Int) < 2 ^ k := Int.pow_pos (by decide)
      simp only [countedSubnet, Sizing.byTotalCount.injEq] at hcount
      omega
    | byCidr => cases hcount
  obtain ⟨hmade, -, hsays, -⟩ := requested_exactly Net.Block.parse hlargest
  obtain ⟨-, hrefused, -, -⟩ := requested_exactly Net.Block.parse hleast
  obtain ⟨r, hr⟩ := hmade.mpr hfeasible
  obtain ⟨-, members, hm, -, hget⟩ := hsays r hr
  exact ⟨⟨r, members, hr, hm, hget _, hget _, hget _⟩, hrefused hinfeasible⟩

end Subnet

end ResourceOperator
