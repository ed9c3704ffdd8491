-- What a resolver makes of a type: every name of the type gets its meaning, from the table of the
-- types that all generators know or from the resolver, and the first name without one is the error.
import Mathlib
import BoundaryGen.Manifest.Binding
import BoundaryGen.Proofs.Result
import BoundaryGen.Proofs.TypeRef.Names

namespace BoundaryGen

open TypeRef (argumentNames)

/-! ## Meanings of names -/

namespace Builtin

/-- A name of the table. -/
def Named (name : String) : Prop := ∃ b, (name, b) ∈ table

theorem lookup_eq_some_iff {name : String} {b : Builtin} :
    lookup name = some b ↔ (name, b) ∈ table :=
  OrderedMap.get?_eq_some_iff (m := ⟨table, by decide⟩)

theorem lookup_eq_none_iff {name : String} : lookup name = none ↔ ¬ Named name := by
  simp only [Named, ← lookup_eq_some_iff, Option.eq_none_iff_forall_ne_some, not_exists, ne_eq]

end Builtin

namespace ResolvedType

variable {resolve other : Resolver} {name : String} {kind : TypeKind}

/-- A name has a meaning when it stands in the table or the resolver accepts it. -/
def HasMeaning (resolve : Resolver) (name : String) : Prop :=
  Builtin.Named name ∨ ∃ kind, resolve name = some kind

/-- `kind` is what a name means: what the table says of it, or else what the resolver says. -/
structure Means (resolve : Resolver) (name : String) (kind : TypeKind) : Prop where
  builtin : ∀ b, (name, b) ∈ Builtin.table → kind = .builtin b
  accepted : ¬ Builtin.Named name → resolve name = some kind

theorem kindOf?_eq_some_iff : kindOf? resolve name = some kind ↔ Means resolve name kind := by
  unfold kindOf?
  rcases hb : Builtin.lookup name with _ | b
  · have hout := Builtin.lookup_eq_none_iff.mp hb
    exact ⟨fun h => ⟨fun b hmem => absurd ⟨b, hmem⟩ hout, fun _ => h⟩, fun h => h.accepted hout⟩
  · have hmem := Builtin.lookup_eq_some_iff.mp hb
    refine ⟨fun h => ⟨fun b' hmem' => ?_, fun hout => absurd ⟨b, hmem⟩ hout⟩, fun h => ?_⟩
    · rw [← Builtin.lookup_eq_some_iff, hb] at hmem'
      rw [← Option.some.inj h, Option.some.inj hmem']
    · exact congrArg some (h.builtin b hmem).symm

theorem kindOf?_eq_none_iff : kindOf? resolve name = none ↔ ¬ HasMeaning resolve name := by
  unfold kindOf? HasMeaning
  rcases hb : Builtin.lookup name with _ | b
  · have hout := Builtin.lookup_eq_none_iff.mp hb
    simp only [hout, false_or, Option.eq_none_iff_forall_ne_some, not_exists, ne_eq]
  · have hmem := Builtin.lookup_eq_some_iff.mp hb
    exact ⟨nofun, fun h => absurd (Or.inl ⟨b, hmem⟩) h⟩

/-! ## Names without a meaning -/

/-- The first of some names that has no meaning. -/
def FirstUnknown (resolve : Resolver) (names : List String) (name : String) : Prop :=
  ∃ known rest, names = known ++ name :: rest ∧ (∀ n ∈ known, HasMeaning resolve n) ∧
    ¬ HasMeaning resolve name

/-- The first of some names that has no kind. -/
def firstUnknown? (resolve : Resolver) (names : List String) : Option String :=
  names.find? fun name => (kindOf? resolve name).isNone

theorem firstUnknown?_eq_some_iff {names : List String} :
    firstUnknown? resolve names = some name ↔ FirstUnknown resolve names name := by
  have hknown (n : String) : (!(kindOf? resolve n).isNone) = true ↔ HasMeaning resolve n := by
    rw [Bool.not_eq_true', Option.isNone_eq_false_iff, Option.isSome_iff_ne_none, ne_eq,
      kindOf?_eq_none_iff, not_not]
  simp only [firstUnknown?, List.find?_eq_some_iff_append, Option.isNone_iff_eq_none,
    kindOf?_eq_none_iff, hknown, FirstUnknown]
  constructor
  · rintro ⟨hname, known, rest, hsplit, hall⟩
    exact ⟨known, rest, hsplit, hall, hname⟩
  · rintro ⟨known, rest, hsplit, hall, hname⟩
    exact ⟨hname, known, rest, hsplit, hall⟩

theorem firstUnknown?_eq_none_iff {names : List String} :
    firstUnknown? resolve names = none ↔ ∀ name ∈ names, HasMeaning resolve name := by
  simp only [firstUnknown?, List.find?_eq_none, Option.isNone_iff_eq_none, kindOf?_eq_none_iff,
    not_not]

mutual
/-- The error of a type is its first name without a meaning. -/
theorem errorOf_ofType : ∀ t : TypeRef, errorOf (ofType resolve t) = firstUnknown? resolve t.names
  | ⟨name, arguments, nullable⟩ => by
    rw [ofType, TypeRef.names, firstUnknown?, List.find?_cons]
    cases kindOf? resolve name with
    | none => rfl
    | some kind => exact (errorOf_map _).trans (errorOf_ofArguments arguments)
theorem errorOf_ofArguments : ∀ arguments : List TypeArgument,
    errorOf (ofArguments resolve arguments) = firstUnknown? resolve (argumentNames arguments)
  | [] => by
    rw [ofArguments, argumentNames]
    rfl
  | ⟨_, none⟩ :: rest => by
    rw [ofArguments, argumentNames, errorOf_map, errorOf_ofArguments rest]
  | ⟨_, some type⟩ :: rest => by
    rw [ofArguments, argumentNames, firstUnknown?, List.find?_append, ← firstUnknown?,
      ← firstUnknown?, ← errorOf_ofType type, ← errorOf_ofArguments rest]
    exact errorOf_bind fun _ => errorOf_map _
end

/-! ## What a resolved type holds -/

/-- `r` is what `t` is resolved to. Its arguments are those of `t` one by one: none for an argument
without a type, and else what that type is resolved to. -/
structure Resolves (resolve : Resolver) (t : TypeRef) (r : ResolvedType) : Prop where
  type : r.type = t
  kind : Means resolve t.name r.kind
  arguments : List.Forall₂
    (fun a => Option.Rel (fun u r => ofType resolve u = .ok r) a.type) t.arguments r.arguments

theorem ofArguments_eq_ok_iff {arguments : List TypeArgument}
    {resolved : List (Option ResolvedType)} :
    ofArguments resolve arguments = .ok resolved ↔ List.Forall₂
      (fun a => Option.Rel (fun u r => ofType resolve u = .ok r) a.type) arguments resolved := by
  induction arguments generalizing resolved with
  | nil =>
    rw [ofArguments, List.forall₂_nil_left_iff, Except.ok.injEq, eq_comm]
  | cons a rest ih =>
    obtain ⟨variance, type⟩ := a
    constructor
    · intro h
      cases type with
      | none =>
        rw [ofArguments] at h
        obtain ⟨others, hrest, h⟩ := bind_eq_ok h
        cases h
        exact .cons .none (ih.mp hrest)
      | some t =>
        rw [ofArguments] at h
        obtain ⟨r, ht, h⟩ := bind_eq_ok h
        obtain ⟨others, hrest, h⟩ := bind_eq_ok h
        cases h
        exact .cons (.some ht) (ih.mp hrest)
    · rintro (_ | ⟨ha, hrest⟩)
      have hrest := ih.mpr hrest
      cases ha with
      | none =>
        rw [ofArguments, hrest]
        rfl
      | some ht =>
        rw [ofArguments, ht, hrest]
        rfl

theorem ofType_eq_ok_iff {t : TypeRef} {r : ResolvedType} :
    ofType resolve t = .ok r ↔ Resolves resolve t r := by
  obtain ⟨name, arguments, nullable⟩ := t
  rw [ofType]
  constructor
  · intro h
    rcases hkind : kindOf? resolve name with _ | kind
    · rw [hkind] at h
      cases h
    · rw [hkind] at h
      obtain ⟨resolved, harguments, h⟩ := bind_eq_ok h
      cases h
      exact ⟨rfl, kindOf?_eq_some_iff.mp hkind, ofArguments_eq_ok_iff.mp harguments⟩
  · obtain ⟨type, kind, resolved⟩ := r
    rintro ⟨htype, hkind, harguments⟩
    cases htype
    dsimp only [ResolvedType.kind, ResolvedType.arguments] at hkind harguments
    rw [kindOf?_eq_some_iff.mpr hkind]
    dsimp only
    rw [ofArguments_eq_ok_iff.mpr harguments]
    rfl

/-! ## What the resolver is asked -/

mutual
theorem ofType_congr : ∀ t : TypeRef,
    (∀ name ∈ t.names, kindOf? other name = kindOf? resolve name) →
      ofType other t = ofType resolve t
  | ⟨name, arguments, nullable⟩, h => by
    rw [ofType, ofType, h name List.mem_cons_self,
      ofArguments_congr arguments fun n hn => h n (List.mem_cons_of_mem name hn)]
theorem ofArguments_congr : ∀ arguments : List TypeArgument,
    (∀ name ∈ argumentNames arguments, kindOf? other name = kindOf? resolve name) →
      ofArguments other arguments = ofArguments resolve arguments
  | [], _ => by rw [ofArguments, ofArguments]
  | ⟨_, none⟩ :: rest, h => by rw [ofArguments, ofArguments, ofArguments_congr rest h]
  | ⟨_, some type⟩ :: rest, h => by
    rw [ofArguments, ofArguments,
      ofType_congr type fun n hn => h n (List.mem_append_left _ hn),
      ofArguments_congr rest fun n hn => h n (List.mem_append_right _ hn)]
end

theorem kindOf?_congr (h : ¬ Builtin.Named name → other name = resolve name) :
    kindOf? other name = kindOf? resolve name := by
  unfold kindOf?
  rcases hb : Builtin.lookup name with _ | b
  · exact h (Builtin.lookup_eq_none_iff.mp hb)
  · rfl

/-! ## The law of resolving -/

/-- A type is resolved exactly when every name in it has a meaning. The result holds the type, what
its name means, and its arguments: none for an argument without a type, and else what that type is
resolved to. When there is no result, the error is the first name without a meaning, from the left
and from the outside. What the resolver says of builtin names, and of names that do not occur, makes
no difference. -/
theorem types_are_resolved_name_by_name (resolve : Resolver) (t : TypeRef) :
    ((∃ r, ofType resolve t = .ok r) ↔ ∀ name ∈ t.names, HasMeaning resolve name) ∧
      (∀ r, ofType resolve t = .ok r ↔ Resolves resolve t r) ∧
      (∀ name, ofType resolve t = .error name ↔ FirstUnknown resolve t.names name) ∧
      ∀ other : Resolver,
        (∀ name ∈ t.names, ¬ Builtin.Named name → other name = resolve name) →
          ofType other t = ofType resolve t := by
  refine ⟨?_, fun r => ofType_eq_ok_iff, fun name => ?_, fun other h => ?_⟩
  · rw [← errorOf_eq_none_iff, errorOf_ofType, firstUnknown?_eq_none_iff]
  · rw [← errorOf_eq_some_iff, errorOf_ofType, firstUnknown?_eq_some_iff]
  · exact ofType_congr t fun name hname => kindOf?_congr (h name hname)

/-- Of three unknown names, one beside a star and two that follow inside and behind it, the first is
the error. -/
example : ofType (fun name => if name = "app.Box" then some (.declared name) else none)
    { name := "app.Box"
      arguments := [{ variance := .star },
        { type := some (.ofArguments "app.Lid" [{ name := "app.Hinge" }]) },
        { type := some { name := "app.Lock" } }] } = .error "app.Lid" := by
  cbv

end ResolvedType

end BoundaryGen
