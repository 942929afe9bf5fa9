import ResourceOperator.Proofs.Desired
import ResourceOperator.Proofs.Json.Names
import ResourceOperator.Proofs.Managed

/-!
# Specs are written in order

A merge acts on each member by itself where a patch names each member once. The encoders of a spec
list their members in order; what is left to show is that the tables and the free-form documents in
it are in order, and they are where it could be read.

Results:
* `Parameters.Fits.canonical`: a desired state that can be read is written in order.
* `Spec.canonical`: so is a spec with it.
-/

namespace ResourceOperator

open Json Json.Reader

namespace Json

theorem OptionalFits.readable {α : Type} {decode : Json → Option α} {target : Json} {a : Option α}
    (h : OptionalFits decode target a) {b : α} (hb : a = some b) : Readable decode b := by
  subst hb
  exact Fits.readable h

end Json

@[simp] theorem Reference.canonical (r : Reference) : r.encode.Canonical :=
  canonical_of_names names_single (by decide) (by simp)

@[simp] theorem Identity.canonical (i : Identity) : i.encode.Canonical :=
  canonical_of_names names_single (List.pairwise_singleton _ _) (by simp)

@[simp] theorem SecretReference.canonical (s : SecretReference) : s.encode.Canonical :=
  canonical_of_names names_single.cons (by decide) (by simp)

/-- The labels of a selector that was read are in order. -/
theorem Selector.canonical {s : Selector} (h : Readable Selector.decode s) :
    s.encode.Canonical := by
  have hl := fits_of_read (fun s : Selector => Fits (table text) .null s.matchLabels) h.fits_null
    (fits_bind (fits_defaulted readable_no_texts) fun _ hl => fits_pure hl)
  exact canonical_of_names names_single (by decide) (by simpa using readable_texts.mp hl.readable)

theorem Vpc.Parameters.canonical (p : Parameters) : p.encode.Canonical :=
  canonical_of_names (((names_member.append names_member).append names_member).append names_member)
    (by decide) (by simp [AddressPrefixManagement.encode])

theorem Subnet.Parameters.canonical {p : Parameters}
    (h : ∀ s, p.common.vpcSelector = some s → s.encode.Canonical) : p.encode.Canonical := by
  have fields : p.fields.Canonical := by
    obtain ⟨c, sizing⟩ := p
    cases sizing with
    | byTotalCount count zone =>
      exact canonical_of_names (((((((((((names_member.append names_nil).append
        names_member).append names_member).append names_member).append names_member).append
        names_member).append names_single).append names_member).append names_member).append
        names_member).append names_single) (by decide) (by simpa using h)
    | byCidr block zone =>
      exact canonical_of_names (((((((((((names_member.append names_single).append
        names_member).append names_member).append names_member).append names_member).append
        names_member).append names_nil).append names_member).append names_member).append
        names_member).append names_member) (by decide) (by simpa using h)
  rw [encode_eq]
  exact canonical_of_names names_single (List.pairwise_singleton _ _) (by simpa using fields)

theorem ResourceInstance.Parameters.canonical {p : Parameters}
    (h : ∀ v, p.parameters = some v → v.Canonical) : p.encode.Canonical := by
  have parameters : CanonicalMembers (member "parameters" p.parameters) :=
    canonicalMembers_member.mpr h
  exact canonical_of_names ((((((names_member.append names_member).append names_single).append
    names_member).append names_single.cons.cons).append names_member).append names_single)
    (by decide) (by simpa using parameters)

theorem ResourceKey.Parameters.canonical {p : Parameters}
    (h : ∀ s, p.sourceSelector = some s → s.encode.Canonical) : p.encode.Canonical := by
  have parameters (c : CreateParameters) : c.encode.Canonical :=
    canonical_of_names names_member (by decide) (by simp)
  exact canonical_of_names (((((names_single.append names_member).append names_member).append
    names_member).append names_member).append names_member) (by decide)
    (by simpa [parameters] using h)

@[simp] theorem Topic.Configs.canonical (c : Configs) : c.encode.Canonical := by
  simp only [encode, encodeWith, ConfigKey.all, List.flatMap_cons, List.flatMap_nil]
  exact canonical_of_names (names_member.append (names_member.append (names_member.append
    (names_member.append (names_member.append (names_member.append (names_member.append
    names_nil))))))) (by decide) (by simp)

theorem Topic.Parameters.canonical {p : Parameters}
    (h : ∀ s, p.kafkaAdminUrlSelector = some s → s.encode.Canonical) : p.encode.Canonical :=
  canonical_of_names ((((names_member.append names_member).append names_member).append
    names_member).append names_member) (by decide) (by simpa using h)

/-- **A desired state that can be read is written in order.** -/
theorem Parameters.Fits.canonical {k : Kind} {p : Parameters k} (h : Parameters.Fits k .null p) :
    (Parameters.encode k p).Canonical := by
  cases k with
  | vpc => exact Vpc.Parameters.canonical p
  | subnet =>
    exact Subnet.Parameters.canonical fun s hs =>
      Selector.canonical (OptionalFits.readable (Subnet.Parameters.Fits.common h).vpcSelector hs)
  | resourceInstance =>
    refine ResourceInstance.Parameters.canonical fun v hv => ?_
    have hread := OptionalFits.readable (ResourceInstance.Parameters.Fits.parameters h) hv
    exact (readable_given_any.mp hread).1
  | resourceKey =>
    exact ResourceKey.Parameters.canonical fun s hs =>
      Selector.canonical (OptionalFits.readable (ResourceKey.Parameters.Fits.sourceSelector h) hs)
  | topic =>
    exact Topic.Parameters.canonical fun s hs =>
      Selector.canonical (OptionalFits.readable (Topic.Parameters.Fits.kafkaAdminUrlSelector h) hs)

/-- A spec with such a desired state is written in order where its templates are. -/
theorem Spec.canonical {k : Kind} {s : Spec k} (hp : Parameters.Fits k .null s.forProvider)
    (ht : ∀ t, Templates.table? k s.connectionTemplates = some t → Table.Sorted t) :
    s.encode.Canonical := by
  refine canonical_of_names (((names_member).append names_single.cons).append names_member)
    (by decide) ?_
  simpa [DeletionPolicy.encode, hp.canonical] using ht

end ResourceOperator
