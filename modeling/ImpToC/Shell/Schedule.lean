import ImpToC.Shell.Process

/-! Running processes beside each other. Time passes only while they wait: the one that can
go on first goes on, and the clock is set to that moment. -/
namespace ImpToC

structure Waiting where
  id : Nat
  event : Event
  traps : List (Nat × String)
  since : Nat
  resume : World → Task

namespace Waiting

def ready? (world : World) (waiting : Waiting) : Option Nat :=
  let comes := fun (test : Nat → Bool) => world.signals.any fun entry =>
    entry.1 == waiting.id && test entry.2
  let onceTrue := fun (condition : Bool) => if condition then some world.clock else none
  let hasEnded := fun (id : Nat) => (world.ended.lookup id).isSome
  match waiting.event with
  | .continuation => onceTrue (comes fun signal => signal == 9 || signal == 18)
  | event => if comes (Process.heeds waiting.traps) then some world.clock else match event with
    | .time micros => some (waiting.since + micros)
    | .input p => onceTrue ((world.pipe p).size > 0 || (world.pipe p).writers == 0)
    | .room p => onceTrue ((world.pipe p).room 1 > 0 || (world.pipe p).readers == 0)
    | .ending id => onceTrue (hasEnded id)
    | .endingOrSignal id => onceTrue (hasEnded id || comes (Process.catches waiting.traps))
    | .continuation => none

def earliest? (world : World) (waiting : List Waiting) : Option (Nat × Waiting) :=
  waiting.foldl (fun best? process =>
    match process.ready? world, best? with
    | none, _ => best?
    | some moment, none => some (moment, process)
    | some moment, some (other, _) => if moment < other then some (moment, process) else best?)
    none

end Waiting

def startingTime : Nat := 300

def Task.settle (id : Nat) (waiting : List Waiting) : Task → List Waiting × World
  | .ended ending world => (waiting, world.settle id ending)
  | .waits event traps world resume => (waiting ++ [⟨id, event, traps, world.clock, resume⟩], world)
  | .forks child start world resume =>
    Task.settle id (waiting ++ [⟨child, .time startingTime, [], world.clock, start⟩])
      (resume world)

/-- Lets processes run until the given one has ended and nobody can write to the given
pipes, or it turns out that this takes longer than until the deadline. The first argument
bounds the steps. -/
def schedule (main : Nat) (pipes : List Nat) (deadline? : Option Nat) :
    Nat → List Waiting → World → Option Ending × World
  | 0, _, world => (none, world)
  | steps + 1, waiting, world =>
    let ending? := world.ended.lookup main
    if ending?.isSome && pipes.all fun p => (world.pipe p).writers == 0 then (ending?, world)
    else
      match Waiting.earliest? world waiting with
      | none => (none, world)
      | some (moment, process) =>
        let late := match deadline? with
          | some deadline => ending?.isNone && deadline ≤ moment
          | none => false
        if late then (none, world)
        else
          let others := waiting.filter fun other => other.id != process.id
          let world := { world with clock := max world.clock moment }
          let (waiting, world) := Task.settle process.id others (process.resume world)
          schedule main pipes deadline? steps waiting world

end ImpToC
