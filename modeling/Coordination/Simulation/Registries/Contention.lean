import Coordination.Simulation.Registries.Performance

/-!
# Many threads that get and purge

Each of some threads gets objects and purges in some rounds, and tells whether all was as it should be.
-/

namespace Coordination.Simulation.Registries

open RegistryClient

def numbered (number : Nat) : String := "key" ++ number.repr

/-- Counts a violation, unless everything is as it should be. -/
def expect (holds : Bool) : Act Unit :=
  if holds then return ()
  else do .storeCell "wrong" ((← .loadCell "wrong").getD 0 + 1)

def counting : Factory := some []

def fetch (key : String) : Act (Option ObjectId) := do
  match ← getObject counting 1 key with
  | .value object => return some object
  | .panicked _ => return none

def isFor (key : String) : Option ObjectId → Act Bool
  | some object => do
      match ← .perform (.content object) with
      | .content content => return content.key = key
      | _ => return false
  | none => return false

/-- One round of a thread: it gets an object twice, which has to be one object of the right key, and
purges in every seventh round. -/
def round (keys thread number : Nat) : Act Unit := do
  let key := numbered ((thread + number) % keys)
  let first ← fetch key
  let second ← fetch key
  expect (first.isSome && first == second)
  expect (← isFor key first)
  release first
  release second
  if number % 7 = 0 then
    let _ ← operate .purge

def rounds (keys thread : Nat) : Nat → Act Result
  | 0 => return .done
  | number + 1 => do
      round keys thread number
      rounds keys thread number

def pin (count : Nat) : Act Result := do
  for number in List.range count do
    match ← fetch (numbered number) with
    | some object => let _ ← .perform (.setVariable (numbered number) (some object))
    | none => pure ()
  return .done

/-- Whether the objects of the keys are still the ones that were held, and the end of it: a purge. -/
def unpin (count : Nat) : Act Result := do
  let mut kept := true
  for number in List.range count do
    let held ← number? (.held (numbered number))
    let object ← fetch (numbered number)
    kept := kept && object.isSome && object == held
    release object
  let _ ← operate .purge
  return .flag kept

/-- What many threads that get and purge have shown: the number of violations, whether the held
objects were kept, and the registry at the end. -/
def contend (threads keys count pinned : Nat) : Int × Bool × Option View :=
  let background : Option (Background Wish) := some {}
  let steps := [Step.run 0 (pin pinned) none]
    ++ ((List.range threads).map fun thread =>
      Step.run thread (rounds keys thread count) background)
    ++ [.run 0 (unpin pinned) none]
  let account := run { threads := max threads 1, steps, closing := return .done, ending := return .done }
  let kept := match account.rows.getLast?.map (·.answer) with
    | some (.result (.flag value) _) => value
    | _ => false
  ((account.scene.cell? "wrong").getD 0, kept, account.final.view)

end Coordination.Simulation.Registries
