import MicroRust.Declaration.Module

/-! What a receiver is given of a crate.

Items are handed over one by one, and the contents of an extern block one by one as well. Either the
receiver takes all declarations, or it refuses one after it took those before. -/

namespace MicroRust

namespace Declaration

def ofForeignItem (abi : String) : ForeignItem → Declaration
  | .prototype proto => .foreignFunction abi proto
  | .static decl => .foreignStatic decl

def ofItem : Item → List Declaration
  | .function fn => [.function fn]
  | .static decl => [.static decl]
  | .foreign block => block.items.map (ofForeignItem block.abi)

end Declaration

/-- The declarations of a crate in source order. Those in extern blocks stand in place of their
blocks. -/
def Crate.declarations (c : Crate) : List Declaration := c.items.flatMap Declaration.ofItem

section

variable {σ α β : Type} {hand : σ → β → σ × Option String}

theorem untilRefusal_append (s : σ) (l m : List β) :
    untilRefusal hand s (l ++ m) =
      match untilRefusal hand s l with
      | (next, none) => untilRefusal hand next m
      | (last, some message) => (last, some message) := by
  induction l generalizing s with
  | nil => rfl
  | cons b l ih =>
    rw [List.cons_append, untilRefusal, untilRefusal]
    rcases hand s b with ⟨next, _ | message⟩
    · exact ih next
    · rfl

/-- Handing over what stands in the members, member by member, is handing over all of it. -/
theorem untilRefusal_flatMap {inner : σ → α → σ × Option String} {g : α → List β}
    (h : ∀ s a, inner s a = untilRefusal hand s (g a)) (s : σ) (l : List α) :
    untilRefusal inner s l = untilRefusal hand s (l.flatMap g) := by
  induction l generalizing s with
  | nil => rfl
  | cons a l ih =>
    rw [untilRefusal, List.flatMap_cons, untilRefusal_append, h]
    rcases untilRefusal hand s (g a) with ⟨next, _ | message⟩
    · exact ih next
    · rfl

end

namespace Backend

variable {σ : Type} {backend : Backend σ} {s t : σ} {ds es : List Declaration}

inductive Takes (backend : Backend σ) : σ → List Declaration → σ → Prop where
  | nil (s : σ) : Takes backend s [] s
  | cons {s t u : σ} {d : Declaration} {ds : List Declaration} (h : backend.declare s d = .ok t)
    (hds : Takes backend t ds u) : Takes backend s (d :: ds) u

/-- The receiver takes the declarations before `d` and refuses `d`. -/
def Refuses (backend : Backend σ) (s : σ) (ds : List Declaration) (d : Declaration)
    (message : String) (last : σ) : Prop :=
  ∃ t, backend.Takes s ds t ∧ backend.declare t d = .error (message, last)

theorem takes_or_refuses (backend : Backend σ) (s : σ) (ds : List Declaration) :
    (∃ last, backend.Takes s ds last) ∨
      ∃ before d behind message last, ds = before ++ d :: behind ∧
        backend.Refuses s before d message last := by
  induction ds generalizing s with
  | nil => exact .inl ⟨s, .nil s⟩
  | cons d ds ih =>
    cases h : backend.declare s d with
    | error refusal => exact .inr ⟨[], d, ds, refusal.1, refusal.2, rfl, s, .nil s, h⟩
    | ok next =>
      rcases ih next with ⟨last, htakes⟩ | ⟨before, e, behind, message, last, rfl, u, hu, herror⟩
      · exact .inl ⟨last, .cons h htakes⟩
      · exact .inr ⟨d :: before, e, behind, message, last, rfl, u, .cons h hu, herror⟩

theorem untilRefusal_singleton (backend : Backend σ) (s : σ) (d : Declaration) :
    untilRefusal backend.hand s [d] = backend.hand s d := by
  rw [untilRefusal]
  rcases backend.hand s d with ⟨next, _ | message⟩ <;> rfl

theorem handItem_eq (backend : Backend σ) (s : σ) (item : Item) :
    backend.handItem s item = untilRefusal backend.hand s (Declaration.ofItem item) := by
  cases item with
  | function fn => exact (backend.untilRefusal_singleton s (.function fn)).symm
  | static decl => exact (backend.untilRefusal_singleton s (.static decl)).symm
  | foreign block =>
    rw [handItem, Declaration.ofItem, List.map_eq_flatMap]
    refine untilRefusal_flatMap (fun s item => ?_) s block.items
    rw [backend.untilRefusal_singleton]
    cases item <;> rfl

theorem untilRefusal_append_of_takes (h : backend.Takes s ds t) (es : List Declaration) :
    untilRefusal backend.hand s (ds ++ es) = untilRefusal backend.hand t es := by
  induction h with
  | nil s => rfl
  | cons h hds ih =>
    rw [List.cons_append, untilRefusal, hand, h]
    exact ih

theorem generate_eq (backend : Backend σ) (s : σ) (c : Crate) :
    backend.generate s (some c) =
      ((untilRefusal backend.hand s c.declarations).1,
        (untilRefusal backend.hand s c.declarations).2.map
          fun message => s!"crate {c.name}: {message}") := by
  rw [generate, untilRefusal_flatMap backend.handItem_eq, Crate.declarations]

theorem generate_of_takes {c : Crate} (h : backend.Takes s c.declarations t) :
    backend.generate s (some c) = (t, none) := by
  have hall := untilRefusal_append_of_takes h []
  rw [List.append_nil] at hall
  rw [generate_eq, hall]
  rfl

theorem generate_of_refuses {c : Crate} {d : Declaration} {message : String} {last : σ}
    {behind : List Declaration} (hc : c.declarations = ds ++ d :: behind)
    (h : backend.Refuses s ds d message last) :
    backend.generate s (some c) = (last, some s!"crate {c.name}: {message}") := by
  obtain ⟨t, htakes, herror⟩ := h
  rw [generate_eq, hc, untilRefusal_append_of_takes htakes, untilRefusal, hand, herror]
  rfl

def recorded (backend : Backend σ) : Backend (List Declaration × σ) :=
  ⟨fun (calls, s) d => match backend.declare s d with
    | .ok next => .ok (calls ++ [d], next)
    | .error (message, last) => .error (message, (calls ++ [d], last))⟩

theorem Takes.recorded (h : backend.Takes s ds t) (calls : List Declaration) :
    backend.recorded.Takes (calls, s) ds (calls ++ ds, t) := by
  induction h generalizing calls with
  | nil s =>
    rw [List.append_nil]
    exact .nil _
  | @cons s t u d ds h hds ih =>
    have hrest := ih (calls ++ [d])
    rw [List.append_assoc] at hrest
    refine .cons ?_ hrest
    simp only [Backend.recorded, h]

theorem Refuses.recorded {d : Declaration} {message : String} {last : σ}
    (h : backend.Refuses s ds d message last) :
    backend.recorded.Refuses ([], s) ds d message (ds ++ [d], last) := by
  obtain ⟨t, htakes, herror⟩ := h
  refine ⟨_, htakes.recorded [], ?_⟩
  simp only [Backend.recorded, herror, List.nil_append]

end Backend

end MicroRust
