import Mathlib.Data.List.Nodup
import NotebookKernel.Proofs.Kernel.Routes
import NotebookKernel.Proofs.Text.LetterCase

/-!
# Which handler a registry has

`Registry.Holds` says what a registry is in terms of the registrations it goes back to: a name finds the
handler that was registered last under any spelling of it, and each table lists the names of its own scope
in lower case. One more registration keeps this up (`Registry.Holds.register`), so it is true of whatever is
made of the empty registry or of the built-in one. Since a directive has its name in lower case already, it
depends on `Text.lowercase_lowercase` that the dispatcher finds the same handler.
-/

namespace NotebookKernel

open Kernel Source Text

/-- A handler with the scope and the name that it is registered under. -/
structure Registration (H : Type) where
  scope : Scope
  name : String
  handler : H

variable {H : Type}

namespace Registration

/-- Whether the handler is registered under a spelling of the name. -/
def Answers (x : Registration H) (scope : Scope) (name : String) : Prop :=
  x.scope = scope ∧ lowercase x.name = lowercase name

/-- Of the registrations under a name, `x` is the last. -/
def Latest (xs : List (Registration H)) (scope : Scope) (name : String) (x : Registration H) : Prop :=
  ∃ before after, xs = before ++ x :: after ∧ x.Answers scope name ∧ ∀ y ∈ after, ¬y.Answers scope name

variable {xs : List (Registration H)} {scope : Scope} {name : String} {x y : Registration H}

theorem latest_concat_of_answers (h : y.Answers scope name) : Latest (xs ++ [y]) scope name x ↔ x = y := by
  constructor
  · rintro ⟨before, after, hxs, -, hafter⟩
    rcases List.eq_nil_or_concat after with rfl | ⟨after, last, rfl⟩
    · exact (List.singleton_inj.mp (List.append_inj_right' hxs rfl)).symm
    · rw [List.concat_eq_append, ← List.cons_append, ← List.append_assoc] at hxs
      obtain rfl : y = last := List.singleton_inj.mp (List.append_inj_right' hxs rfl)
      exact absurd h (hafter y (by simp))
  · rintro rfl
    exact ⟨xs, [], rfl, h, fun _ hmem => absurd hmem List.not_mem_nil⟩

theorem latest_concat_of_not_answers (h : ¬y.Answers scope name) :
    Latest (xs ++ [y]) scope name x ↔ Latest xs scope name x := by
  constructor
  · rintro ⟨before, after, hxs, hx, hafter⟩
    rcases List.eq_nil_or_concat after with rfl | ⟨after, last, rfl⟩
    · obtain rfl : y = x := List.singleton_inj.mp (List.append_inj_right' hxs rfl)
      exact absurd hx h
    · rw [List.concat_eq_append, ← List.cons_append, ← List.append_assoc] at hxs
      refine ⟨before, after, List.append_inj_left' hxs rfl, hx, fun z hz => hafter z ?_⟩
      rw [List.concat_eq_append]
      exact List.mem_append_left _ hz
  · rintro ⟨before, after, rfl, hx, hafter⟩
    refine ⟨before, after ++ [y], by simp, hx, fun z hz => ?_⟩
    rcases List.mem_append.mp hz with hz | hz
    · exact hafter z hz
    · rwa [List.mem_singleton.mp hz]

end Registration

open Registration

namespace Registry

/-- Makes registrations, in the order of the list. -/
def registerAll (r : Registry H) (xs : List (Registration H)) : Registry H :=
  xs.foldl (fun r x => r.register x.scope x.name x.handler) r

/-- The registry has what the registrations say, and nothing else. -/
structure Holds (r : Registry H) (xs : List (Registration H)) : Prop where
  isSome_iff : ∀ scope name, (r.lookup scope name).isSome = true ↔ ∃ x ∈ xs, x.Answers scope name
  eq_some_iff : ∀ scope name handler, r.lookup scope name = some handler ↔
    ∃ x, Latest xs scope name x ∧ x.handler = handler
  /-- A table depends on the registrations for its scope only. -/
  apart : ∀ scope, r.table scope = (registerAll ∅ (xs.filter (·.scope == scope))).table scope
  ascending : ∀ scope, (r.names scope).Pairwise (· < ·)
  mem_names_iff : ∀ scope name, name ∈ r.names scope ↔ ∃ x ∈ xs, x.scope = scope ∧ lowercase x.name = name
  once : ∀ x ∈ xs, (r.names x.scope).count (lowercase x.name) = 1

variable {r : Registry H} {xs ys : List (Registration H)}

theorem registerAll_append : r.registerAll (xs ++ ys) = (r.registerAll xs).registerAll ys :=
  List.foldl_append

theorem registerAll_concat {x : Registration H} :
    r.registerAll (xs ++ [x]) = (r.registerAll xs).register x.scope x.name x.handler :=
  registerAll_append

theorem lookup_register_of_answers {x : Registration H} {scope : Scope} {name : String}
    (h : x.Answers scope name) : (r.register x.scope x.name x.handler).lookup scope name = some x.handler :=
  (lookup_register r x.scope scope x.name name x.handler).trans (if_pos h)

theorem lookup_register_of_not_answers {x : Registration H} {scope : Scope} {name : String}
    (h : ¬x.Answers scope name) :
    (r.register x.scope x.name x.handler).lookup scope name = r.lookup scope name :=
  (lookup_register r x.scope scope x.name name x.handler).trans (if_neg h)

theorem ascending_names (r : Registry H) (scope : Scope) : (r.names scope).Pairwise (· < ·) :=
  List.pairwise_map.mpr (r.table scope).ascending

theorem mem_names_register {scope scope' : Scope} {name name' : String} {handler : H} :
    name' ∈ (r.register scope name handler).names scope' ↔
      (scope = scope' ∧ lowercase name = name') ∨ name' ∈ r.names scope' := by
  rw [names, table_register]
  by_cases hscope : scope = scope'
  · rw [if_pos hscope, ← SortedMap.contains_iff, SortedMap.contains_insert, Bool.or_eq_true,
      decide_eq_true_eq, SortedMap.contains_iff, names]
    simp [hscope]
  · simp [hscope, names]

theorem exists_mem_concat {P : Registration H → Prop} {x : Registration H} :
    (∃ y ∈ xs ++ [x], P y) ↔ (∃ y ∈ xs, P y) ∨ P x := by
  simp [or_and_right, exists_or]

/-- Where no registration answers, the registry answers as before. -/
theorem lookup_registerAll_of_forall {scope : Scope} {name : String}
    (h : ∀ x ∈ xs, ¬x.Answers scope name) :
    (r.registerAll xs).lookup scope name = r.lookup scope name := by
  induction xs generalizing r with
  | nil => rfl
  | cons x xs ih =>
    obtain ⟨hx, hxs⟩ := List.forall_mem_cons.mp h
    change ((r.register x.scope x.name x.handler).registerAll xs).lookup scope name = _
    rw [ih hxs, lookup_register_of_not_answers hx]

theorem holds_empty : (∅ : Registry H).Holds [] where
  isSome_iff scope name := by simp [lookup_empty]
  eq_some_iff scope name handler := by simp [lookup_empty, Latest]
  apart _ := rfl
  ascending := ascending_names ∅
  mem_names_iff scope name := by cases scope <;> simp [names] <;> exact List.not_mem_nil
  once _ hx := absurd hx List.not_mem_nil

/-- One more registration. -/
theorem Holds.register (h : r.Holds xs) (x : Registration H) :
    (r.register x.scope x.name x.handler).Holds (xs ++ [x]) where
  isSome_iff scope name := by
    by_cases hx : x.Answers scope name
    · rw [lookup_register_of_answers hx]
      exact iff_of_true rfl ⟨x, List.mem_append_right _ List.mem_cons_self, hx⟩
    · rw [lookup_register_of_not_answers hx, h.isSome_iff, exists_mem_concat, or_iff_left hx]
  eq_some_iff scope name handler := by
    by_cases hx : x.Answers scope name
    · rw [lookup_register_of_answers hx, Option.some.injEq]
      simp only [latest_concat_of_answers hx, exists_eq_left]
    · rw [lookup_register_of_not_answers hx, h.eq_some_iff]
      simp only [latest_concat_of_not_answers hx]
  apart scope := by
    rw [table_register, List.filter_append]
    by_cases hscope : x.scope = scope
    · rw [if_pos hscope, List.filter_cons_of_pos (by simpa using hscope), List.filter_nil,
        registerAll_concat, table_register, if_pos hscope, h.apart scope]
    · rw [if_neg hscope, List.filter_cons_of_neg (by simpa using hscope), List.filter_nil,
        List.append_nil, h.apart scope]
  ascending := ascending_names _
  mem_names_iff scope name := by
    rw [mem_names_register, h.mem_names_iff, exists_mem_concat, or_comm]
  once y hy := by
    have hmem : lowercase y.name ∈ (r.register x.scope x.name x.handler).names y.scope := by
      rw [mem_names_register, h.mem_names_iff]
      rcases List.mem_append.mp hy with hy | hy
      · exact .inr ⟨y, hy, rfl, rfl⟩
      · exact .inl (List.mem_singleton.mp hy ▸ ⟨rfl, rfl⟩)
    exact List.count_eq_one_of_mem (SortedMap.nodup_keys _) hmem

theorem Holds.registerAll (h : r.Holds xs) : (r.registerAll ys).Holds (xs ++ ys) := by
  induction ys using List.reverseRecOn with
  | nil => simpa [Registry.registerAll] using h
  | append_singleton ys y ih =>
    rw [registerAll_concat, ← List.append_assoc]
    exact ih.register y

end Registry

/-! ## The built-in magics and the dispatcher -/

variable {σ : Type}

namespace Magic

/-- The registrations of the built-in magics. -/
def registrations (p : Platform σ) : List (Registration (Handler σ)) :=
  (lineMagics p).map (fun m => ⟨.line, m.1, m.2⟩) ++ (cellMagics p).map (fun m => ⟨.cell, m.1, m.2⟩)

theorem builtins_eq_registerAll (p : Platform σ) : builtins p = Registry.registerAll ∅ (registrations p) := by
  rw [registrations, Registry.registerAll_append]
  rfl

theorem holds_builtins (p : Platform σ) : (builtins p).Holds (registrations p) := by
  rw [builtins_eq_registerAll]
  exact Registry.holds_empty.registerAll

end Magic

namespace Kernel

/-- The dispatcher hands a directive to the handler that was registered last under a spelling of its name. -/
structure Serves (p : Platform σ) (r : Registry (Handler σ)) (xs : List (Registration (Handler σ))) : Prop
    extends r.Holds xs where
  runs : ∀ {code d name x}, Directive.ofCell? code = some d → lowercase name = d.name →
    Latest xs d.scope name x → route p r code = (do pure (← x.handler d, true))

theorem serves_of_holds (p : Platform σ) {r : Registry (Handler σ)}
    {xs : List (Registration (Handler σ))} (h : r.Holds xs) : Serves p r xs where
  toHolds := h
  runs := by
    intro code d name x hd hname hx
    have hlookup : r.lookup d.scope d.name = some x.handler := by
      rw [Registry.lookup, ← hname, lowercase_lowercase, ← Registry.lookup]
      exact (h.eq_some_iff d.scope name x.handler).mpr ⟨x, hx, rfl⟩
    exact route_of_ofCell? hd hlookup

/-- Whatever is registered in the empty registry and in the built-in one, both have what was registered,
with the built-in magics to begin with in the second. There a built-in magic is found under its name until
another one is registered under it. -/
theorem serves_registerAll (p : Platform σ) (xs : List (Registration (Handler σ))) :
    Serves p (Registry.registerAll ∅ xs) xs ∧
      Serves p ((Magic.builtins p).registerAll xs) (Magic.registrations p ++ xs) ∧
      ∀ scope name, (∀ x ∈ xs, ¬x.Answers scope name) →
        ((Magic.builtins p).registerAll xs).lookup scope name = (Magic.builtins p).lookup scope name := by
  have hempty : (Registry.registerAll ∅ xs).Holds ([] ++ xs) := Registry.holds_empty.registerAll
  exact ⟨serves_of_holds p hempty, serves_of_holds p (Magic.holds_builtins p).registerAll,
    fun _ _ h => Registry.lookup_registerAll_of_forall h⟩

/-- A handler in exchange for a built-in one, with three spellings of the name. -/
theorem serves_registerAll_of_respelled :
    route tickingPlatform ((Magic.builtins tickingPlatform).registerAll
        [⟨.line, "PWD", fun d => pure (.text d.args)⟩]) "%Pwd here"
      = (do pure (← (pure (.text "here") : KernelM _ Output), true)) := by
  have hd : Directive.ofCell? "%Pwd here" = some ⟨.line, "pwd", "here", ""⟩ := by decide +kernel
  have hname : lowercase "pwD" = "pwd" := by decide +kernel
  obtain ⟨-, hserves, -⟩ :=
    serves_registerAll tickingPlatform [⟨.line, "PWD", fun d => pure (.text d.args)⟩]
  exact hserves.runs hd hname ⟨Magic.registrations tickingPlatform, [], rfl, ⟨rfl, by decide +kernel⟩,
    fun _ hmem => absurd hmem List.not_mem_nil⟩

end Kernel

end NotebookKernel
