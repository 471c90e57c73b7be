import Retargeting.Schedule

/- The two networks whose schedules are built in. Blocks are thirty seconds
   apart and every block retargets; the test network differs only in its stall
   relief. -/
namespace Retargeting

/-- A network with a schedule of its own. -/
inductive Network where
  | production
  | test
  deriving DecidableEq

namespace Network

/-- Seconds that a window of the built-in schedules takes. -/
def timespan : UInt32 := 30

/-- Seconds between two blocks. -/
def spacing : UInt32 := 30

/-- Blocks of a window. -/
def interval : UInt32 := timespan / spacing

/-- The easiest target, as headers declare it. -/
def limitBits : Compact := ⟨0x1e0fffff⟩

/-- The target of the production network's first block. -/
def genesisBits : Compact := ⟨0x1e0ffff0⟩

def genesisTime : UInt32 := 1394102925

def id : Network → String
  | .production => "org.newyorkcoin.production"
  | .test => "org.newyorkcoin.test"

def name : Network → String
  | .production => "mainnet"
  | .test => "testnet"

def all : List Network := [.production, .test]

def ofId? (s : String) : Option Network := all.find? fun n => n.id = s

def ofName? (s : String) : Option Network := all.find? fun n => n.name = s

def schedule (n : Network) : Schedule :=
  { timespan := timespan, interval := interval, limit := limitBits.target,
    stallRelief := n = .test }

theorem fault?_schedule (n : Network) : n.schedule.fault? = none := by
  cases n <;> decide

end Network

end Retargeting
