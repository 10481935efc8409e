/-
# Sessions over one platform

`platform D main` runs any number of sessions of the program `main` over the
database, the locks and the engine, each with a session name of its own.  What
one session knows of the rows it holds and the claim it executes, no other
session can undo (`own`).
-/

import BaobabErp.Concurrency.RelyGuarantee
import BaobabErp.Platform.Records

namespace BaobabErp

open Concurrency

/-- **Any number of sessions of one program over one platform.** -/
abbrev platform (D : Deployment) {Launch : Type} (main : Launch → Program Unit) : Machine where
  Worker := Worker
  Eff := Eff
  Ans := Ans
  Err := Exc
  State := World
  Choice := Choice
  Launch := Launch
  Env := Env
  exec := exec D
  main _ := main
  close := World.close
  env := env

section

variable {D : Deployment} {L : Type} {main : L → Program Unit} {P : Protocol (platform D main)}
  {w : Worker} {s t : World}

instance : DecidableEq (platform D main).Worker := inferInstanceAs (DecidableEq String)

theorem other_own {s t : (platform D main).State} (h : P.Other w s t) : OwnSame w s t := by
  cases h with
  | exec hv _ _ he => exact exec_own hv.symm he
  | close hv _ => exact close_own hv.symm
  | env _ _ he => exact env_own he

theorem other_engineGrows {s t : (platform D main).State} (h : P.Other w s t) :
    EngineGrows s t := by
  cases h with
  | exec _ _ _ he => exact exec_engineGrows he
  | close _ _ => exact .of_eq rfl
  | env _ _ he => exact env_engineGrows he

/-- A fact about the rows `w` holds and the claim it executes. -/
def own (A : World → Prop) (hA : ∀ s t, OwnSame w s t → A s → A t) : P.Assertion w :=
  ⟨A, fun _ _ h => hA _ _ (other_own h)⟩

@[simp] theorem holds_own {A : World → Prop} {hA : ∀ s t, OwnSame w s t → A s → A t} :
    (own A hA : P.Assertion w).holds s ↔ A s := .rfl

/-- One call, from what it can do (`Platform.Steps`). -/
theorem call_triple {e : Eff} {A : P.Assertion w} {Q : Except Exc (Ans e) → P.Assertion w}
    (hg : ∀ s : World, P.Inv s → A.holds s → P.Guard w e s)
    (he : ∀ (c : Choice) (s t : World) (r : Except Exc (Ans e)), P.Inv s → P.Inv t → A.holds s →
      P.Guard w e s → exec D w e c s = some (r, t) → (Q r).holds t) :
    P.Triple w A (.perform e) Q :=
  .perform hg fun c s r t hs ht hA hgs hex => he c s t r hs ht hA hgs hex

/-- One call that leaves `A` as it is. -/
theorem call_keeps {e : Eff} {A : P.Assertion w}
    (hg : ∀ s : World, P.Inv s → A.holds s → P.Guard w e s)
    (he : ∀ (c : Choice) (s t : World) (r : Except Exc (Ans e)), P.Inv s → P.Inv t → A.holds s →
      exec D w e c s = some (r, t) → A.holds t) :
    Protocol.Keeps A _ (.perform e) :=
  call_triple hg fun c s t r hs ht hA _ hex => he c s t r hs ht hA hex

end

end BaobabErp
