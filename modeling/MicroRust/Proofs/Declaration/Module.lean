import Mathlib.Data.List.Nodup
import MicroRust.Proofs.Declaration.Backend

/-! When a crate has a module.

Declarations are taken one by one and a name is refused the second time, so the module is refused
exactly if two declarations have one name. A module never has two declarations of one name. -/

namespace MicroRust

open Text

def ForeignItem.name : ForeignItem → String
  | .prototype proto => proto.name
  | .static decl => decl.name

def Item.names : Item → List String
  | .function fn => [fn.proto.name]
  | .static decl => [decl.name]
  | .foreign block => block.items.map ForeignItem.name

def Crate.names (c : Crate) : List String := c.items.flatMap Item.names

theorem Declaration.map_name_ofItem (item : Item) :
    (ofItem item).map Declaration.name = item.names := by
  cases item with
  | function fn => rfl
  | static decl => rfl
  | foreign block =>
    rw [ofItem, List.map_map, Item.names]
    apply List.map_congr_left
    intro item _
    cases item <;> rfl

theorem Crate.map_name_declarations (c : Crate) :
    c.declarations.map Declaration.name = c.names := by
  rw [declarations, List.map_flatMap, names]
  congr 1
  funext item
  exact Declaration.map_name_ofItem item

theorem Decl.name_ofDeclaration (d : Declaration) : (Decl.ofDeclaration d).name = d.name := by
  cases d <;> rfl

namespace Module

theorem find?_eq_none_iff (m : Module) (name : String) :
    m.find? name = none ↔ name ∉ m.decls.map Decl.name := by
  rw [find?, List.find?_eq_none, List.mem_map]
  constructor
  · rintro h ⟨d, hd, rfl⟩
    exact h d hd (decide_eq_true rfl)
  · intro h d hd heq
    exact h ⟨d, hd, of_decide_eq_true heq⟩

theorem find?_eq_some_iff {m : Module} (hm : (m.decls.map Decl.name).Nodup) (name : String)
    (d : Decl) : m.find? name = some d ↔ d ∈ m.decls ∧ d.name = name := by
  constructor
  · intro h
    have hname := List.find?_some h
    exact ⟨List.mem_of_find?_eq_some h, of_decide_eq_true hname⟩
  · rintro ⟨hd, rfl⟩
    cases hfind : m.find? d.name with
    | none => exact absurd (List.mem_map_of_mem hd) ((find?_eq_none_iff m d.name).1 hfind)
    | some other =>
      have hmem := List.mem_of_find?_eq_some hfind
      have hname := List.find?_some hfind
      rw [List.inj_on_of_nodup_map hm hmem hd (of_decide_eq_true hname)]

variable {m next : Module} {d : Declaration}

theorem declare_eq_ok_iff :
    backend.declare m d = .ok next ↔
      d.name ∉ m.decls.map Decl.name ∧ next = ⟨m.name, m.decls ++ [.ofDeclaration d]⟩ := by
  rw [← Decl.name_ofDeclaration, ← find?_eq_none_iff]
  change m.add (.ofDeclaration d) = .ok next ↔ _
  unfold add
  cases m.find? (Decl.ofDeclaration d).name with
  | none => simp [eq_comm]
  | some other => simp

theorem declare_eq_error_iff {message : String} :
    backend.declare m d = .error (message, next) ↔
      d.name ∈ m.decls.map Decl.name ∧
        message = s!"duplicate definition of {quoted d.name}" ∧ next = m := by
  have hmem : d.name ∈ m.decls.map Decl.name ↔ m.find? (Decl.ofDeclaration d).name ≠ none := by
    rw [Ne, find?_eq_none_iff, not_not, Decl.name_ofDeclaration]
  rw [hmem]
  change m.add (.ofDeclaration d) = .error (message, next) ↔ _
  unfold add
  cases m.find? (Decl.ofDeclaration d).name with
  | none => simp
  | some other => simp [Decl.name_ofDeclaration, eq_comm]

theorem nodup_append_name {decls : List Decl} (h : (decls.map Decl.name).Nodup) {d : Declaration}
    (hd : d.name ∉ decls.map Decl.name) :
    ((decls ++ [Decl.ofDeclaration d]).map Decl.name).Nodup := by
  rw [List.map_append, List.map_singleton, Decl.name_ofDeclaration, ← List.concat_eq_append]
  exact h.concat hd

def step (m : Module) (d : Declaration) : Module :=
  match backend.declare m d with
  | .ok next => next
  | .error (_, last) => last

theorem nodup_step (h : (m.decls.map Decl.name).Nodup) (d : Declaration) :
    ((m.step d).decls.map Decl.name).Nodup := by
  unfold step
  split
  · rename_i next hok
    obtain ⟨hd, rfl⟩ := declare_eq_ok_iff.1 hok
    exact nodup_append_name h hd
  · rename_i message last herror
    obtain ⟨-, -, rfl⟩ := declare_eq_error_iff.1 herror
    exact h

theorem nodup_steps (h : (m.decls.map Decl.name).Nodup) (ds : List Declaration) :
    ((ds.foldl step m).decls.map Decl.name).Nodup := by
  induction ds generalizing m with
  | nil => exact h
  | cons d ds ih => exact ih (nodup_step h d)

/-- What is taken is recorded, and its names are new and different. -/
theorem eq_of_takes {ds : List Declaration} (h : backend.Takes m ds next)
    (hm : (m.decls.map Decl.name).Nodup) :
    next = ⟨m.name, m.decls ++ ds.map Decl.ofDeclaration⟩ ∧
      (m.decls.map Decl.name ++ ds.map Declaration.name).Nodup := by
  induction h with
  | nil m => simpa using hm
  | @cons m next last d ds hok hds ih =>
    obtain ⟨hd, rfl⟩ := declare_eq_ok_iff.1 hok
    simpa [Decl.name_ofDeclaration] using ih (nodup_append_name hm hd)

theorem refusal_text (crate key : String) :
    s!"crate {crate}: " ++ s!"duplicate definition of {key}" =
      s!"crate {crate}: duplicate definition of {key}" := by
  change "crate " ++ crate ++ ": " ++ ("duplicate definition of " ++ key) =
    "crate " ++ crate ++ ": duplicate definition of " ++ key
  have hmiddle : ": " ++ "duplicate definition of " = ": duplicate definition of " := rfl
  rw [← hmiddle]
  simp only [String.append_assoc]

variable (name : String) (c : Crate)

theorem generate_cases :
    ((c.declarations.map Declaration.name).Nodup ∧ backend.generate ⟨name, []⟩ (some c) =
      (⟨name, c.declarations.map Decl.ofDeclaration⟩, none)) ∨
    ∃ before d behind, c.declarations = before ++ d :: behind ∧
      (before.map Declaration.name).Nodup ∧ d.name ∈ before.map Declaration.name ∧
      backend.generate ⟨name, []⟩ (some c) = (⟨name, before.map Decl.ofDeclaration⟩,
        some s!"crate {c.name}: duplicate definition of {quoted d.name}") := by
  rcases backend.takes_or_refuses ⟨name, []⟩ c.declarations with
    ⟨last, htakes⟩ | ⟨before, d, behind, message, last, hc, hrefuses⟩
  · obtain ⟨rfl, hnodup⟩ := eq_of_takes htakes List.nodup_nil
    exact .inl ⟨hnodup, Backend.generate_of_takes htakes⟩
  · have hgenerate := Backend.generate_of_refuses hc hrefuses
    obtain ⟨t, htakes, herror⟩ := hrefuses
    obtain ⟨rfl, hnodup⟩ := eq_of_takes htakes List.nodup_nil
    obtain ⟨hmem, rfl, rfl⟩ := declare_eq_error_iff.1 herror
    have hname : d.name ∈ before.map Declaration.name := by
      simpa [Decl.name_ofDeclaration] using hmem
    refine .inr ⟨before, d, behind, hc, hnodup, hname, ?_⟩
    rw [hgenerate, ← refusal_text]
    rfl

theorem nodup_generate :
    ((backend.generate ⟨name, []⟩ (some c)).1.decls.map Decl.name).Nodup := by
  have hmap (ds : List Declaration) :
      (ds.map Decl.ofDeclaration).map Decl.name = ds.map Declaration.name := by
    rw [List.map_map]
    exact List.map_congr_left fun d _ => Decl.name_ofDeclaration d
  obtain ⟨hnodup, h⟩ | ⟨before, d, behind, -, hnodup, -, h⟩ := generate_cases name c
  · rw [h, hmap]
    exact hnodup
  · rw [h, hmap]
    exact hnodup

end Module

namespace Crate

variable {c : Crate}

theorem not_nodup_names {before behind : List Declaration} {d : Declaration}
    (hc : c.declarations = before ++ d :: behind) (hd : d.name ∈ before.map Declaration.name) :
    ¬ (c.declarations.map Declaration.name).Nodup := by
  intro h
  rw [hc, List.map_append, List.map_cons] at h
  exact (List.nodup_append.1 h).2.2 _ hd _ List.mem_cons_self rfl

theorem generate_eq_none_iff (name : String) :
    (Module.backend.generate ⟨name, []⟩ (some c)).2 = none ↔
      (c.declarations.map Declaration.name).Nodup := by
  obtain ⟨hnodup, h⟩ | ⟨before, d, behind, hc, -, hd, h⟩ := Module.generate_cases name c
  · simp [h, hnodup]
  · simp [h, not_nodup_names hc hd]

theorem module_of_nodup (h : c.names.Nodup) :
    c.module = (⟨c.name, c.declarations.map Decl.ofDeclaration⟩, none) := by
  rw [← map_name_declarations] at h
  obtain ⟨-, hgenerate⟩ | ⟨before, d, behind, hc, -, hd, -⟩ := Module.generate_cases c.name c
  · exact hgenerate
  · exact absurd h (not_nodup_names hc hd)

theorem module_of_not_nodup (h : ¬ c.names.Nodup) :
    ∃ last refusal, c.module = (last, some refusal) := by
  rw [← map_name_declarations, ← generate_eq_none_iff c.name] at h
  obtain ⟨refusal, hrefusal⟩ := Option.ne_none_iff_exists'.1 h
  exact ⟨_, refusal, Prod.ext rfl hrefusal⟩

/-- A receiver is given the declarations of a crate in order, all of them or those up to the first
that it refuses. A module that is built so never has two declarations of one name: the first whose
name came before is refused, and those before it stay. -/
theorem declared_in_order (c : Crate) :
    (∀ {σ : Type} (backend : Backend σ) (s : σ),
      (∃ last, backend.Takes s c.declarations last ∧
        backend.generate s (some c) = (last, none) ∧
        backend.recorded.generate ([], s) (some c) = ((c.declarations, last), none)) ∨
      ∃ before d behind message last, c.declarations = before ++ d :: behind ∧
        backend.Refuses s before d message last ∧
        backend.generate s (some c) = (last, some s!"crate {c.name}: {message}") ∧
        backend.recorded.generate ([], s) (some c) =
          ((before ++ [d], last), some s!"crate {c.name}: {message}")) ∧
    ∀ name : String,
      (∀ calls : List Declaration,
        ((calls.foldl Module.step ⟨name, []⟩).decls.map Decl.name).Nodup) ∧
      let built := Module.backend.generate ⟨name, []⟩ (some c)
      (built.2 = none ↔ (c.declarations.map Declaration.name).Nodup) ∧
      (built = (⟨name, c.declarations.map Decl.ofDeclaration⟩, none) ∨
        ∃ before d behind, c.declarations = before ++ d :: behind ∧
          (before.map Declaration.name).Nodup ∧ d.name ∈ before.map Declaration.name ∧
          built = (⟨name, before.map Decl.ofDeclaration⟩,
            some s!"crate {c.name}: duplicate definition of {quoted d.name}")) ∧
      ∀ (key : String) (d : Decl),
        built.1.find? key = some d ↔ d ∈ built.1.decls ∧ d.name = key := by
  refine ⟨fun {σ} backend s => ?_, fun name => ?_⟩
  · obtain ⟨last, htakes⟩ | ⟨before, d, behind, message, last, hc, hrefuses⟩ :=
      backend.takes_or_refuses s c.declarations
    · exact .inl ⟨last, htakes, Backend.generate_of_takes htakes,
        Backend.generate_of_takes (htakes.recorded [])⟩
    · exact .inr ⟨before, d, behind, message, last, hc, hrefuses,
        Backend.generate_of_refuses hc hrefuses, Backend.generate_of_refuses hc hrefuses.recorded⟩
  · refine ⟨Module.nodup_steps List.nodup_nil, generate_eq_none_iff name,
      (Module.generate_cases name c).imp And.right id, ?_⟩
    exact Module.find?_eq_some_iff (Module.nodup_generate name c)

end Crate

end MicroRust
