import EventHeader.Proofs.IdentifierCapitals
import EventHeader.Proofs.PayloadNodes

/- The types of C++ that fields of single values have, and the names that components
   declare. Only one of the six types looks like a name made of a path: `Float`.
   The others have no capital where a name begins, and a path of two texts or more
   leaves two (`ofPath_ne_typeName`). So a field of an object or an enum is never
   mistaken for a single value; but an event called `float` declares a struct of the
   name `Float`, which inside the class hides the type that its own fields may have.
   `declared_builtin_iff` says that this is the only way in which a type is hidden:
   nothing refuses it, not even a strict registry, since no other declaration has the
   name. -/
namespace EventHeader

namespace Primitive

def all : List Primitive := [.boolean, .string, .int32, .double, .float, .mixed]

/-- The kind whose values a type of C++ holds, if it is the type of one. -/
def ofTypeName? (t : String) : Option Primitive := all.find? (fun p => p.typeName == t)

theorem ofTypeName?_typeName (p : Primitive) : ofTypeName? p.typeName = some p := by
  cases p <;> decide

theorem ofTypeName?_eq_none {t : String} (h : ∀ p : Primitive, p.typeName ≠ t) :
    ofTypeName? t = none := by
  simp [ofTypeName?, h]

/-- How many characters of a type could begin a name: one in `Float`, none elsewhere. -/
theorem initials_typeName (p : Primitive) :
    p.typeName.toList.countP Identifier.isInitial = if p = .float then 1 else 0 := by
  cases p <;> decide

end Primitive

def IsBuiltin (t : String) : Prop := ∃ p : Primitive, p.typeName = t

namespace Payload
open EventHeader.Declaration

theorem ofPath_ne_typeName {path : List String} (h : 2 ≤ path.length) (p : Primitive) :
    p.typeName ≠ Identifier.ofPath path := by
  intro he
  have hcount := Identifier.length_le_initials path
  rw [← he, Primitive.initials_typeName] at hcount
  split at hcount <;> omega

/-- The name of a single text is no type of single values but `Float`. -/
theorem eq_float_of_ofText {s : String} {p : Primitive} (h : Identifier.ofText s = p.typeName) :
    p = .float := by
  have hcount := Identifier.length_le_initials [s]
  rw [Identifier.ofPath_singleton, h, Primitive.initials_typeName, List.length_singleton] at hcount
  split at hcount
  · assumption
  · omega

/-- A component declares a name that is a type of single values exactly if one of its
events with a payload is called so, and then the type is `Float`. -/
theorem declared_builtin_iff {σ : Type} (component : String) (c : Component) (strict : Bool)
    (s : σ) (cls : EmitterClass)
    (h : ((EmitterClass.ofComponent component c strict).run s).result = .ok cls)
    (p : Primitive) :
    (∃ d ∈ cls.declarations, d.name = p.typeName) ↔
      p = .float ∧ ∃ e ∈ c.events, e.payload.isSome = true ∧ Identifier.ofText e.name = "Float" := by
  obtain ⟨hsettled, -, -⟩ := ofComponent_ok h
  have hnames := hsettled.mem_names_iff_path (t := p.typeName)
  rw [List.mem_map] at hnames
  rw [hnames]
  constructor
  · rintro ⟨n, hn, hname⟩
    obtain ⟨e, he, hn⟩ := List.mem_flatMap.mp hn
    rcases mem_eventNodes hn with ⟨properties, hp, rfl⟩ | hlen
    · have hname : Identifier.ofText e.name = p.typeName := by
        rw [← hname, ← Identifier.ofPath_singleton]
        rfl
      -- The other types have no capital in front, as every name has.
      have hfloat := eq_float_of_ofText hname
      subst hfloat
      exact ⟨rfl, e, he, by rw [hp]; rfl, hname⟩
    · -- Below a payload names are too long to be mistaken.
      exact absurd hname.symm (ofPath_ne_typeName hlen p)
  · rintro ⟨rfl, e, he, hp, hname⟩
    obtain ⟨properties, hp⟩ := Option.isSome_iff_exists.mp hp
    refine ⟨.object [e.name] properties, ?_, ?_⟩
    · exact List.mem_flatMap.mpr ⟨e, he, root_mem_eventNodes hp⟩
    · exact (Identifier.ofPath_singleton e.name).trans hname

/-- A component with an event called `float` that carries a value of that kind. -/
def floatComponent : Component :=
  ⟨[⟨"float", false, .direct, some [⟨"value", false, .primitive .float⟩]⟩]⟩

/-- Its class, in which the only field has the struct around it as its type. -/
def floatClass : EmitterClass :=
  ⟨"Slider", [.struct "Float" [⟨"value", "Float"⟩]], ["void float(Float value) const;"]⟩

theorem declared_builtin_float :
    ((EmitterClass.ofComponent "Slider" floatComponent true).run ()).result = .ok floatClass ∧
    ((∃ d ∈ floatClass.declarations, d.name = Primitive.float.typeName) ↔
      Primitive.float = .float ∧ ∃ e ∈ floatComponent.events,
        e.payload.isSome = true ∧ Identifier.ofText e.name = "Float") :=
  ⟨rfl, declared_builtin_iff "Slider" floatComponent true () floatClass rfl .float⟩

/-- Types of single values are not safe from being hidden. -/
theorem builtin_hidden_by_event :
    ¬ ∀ (component : String) (c : Component) (strict : Bool) (cls : EmitterClass),
      ((EmitterClass.ofComponent component c strict).run ()).result = .ok cls →
        ∀ d ∈ cls.declarations, ∀ p : Primitive, d.name ≠ p.typeName := by
  intro h
  exact h "Slider" floatComponent true floatClass rfl _ List.mem_cons_self .float rfl

end Payload
end EventHeader
