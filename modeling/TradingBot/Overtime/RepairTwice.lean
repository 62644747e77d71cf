import TradingBot.Overtime.RepairRun

/-!
# Repairing twice

A repairing run leaves rows that clash on no index, every target closed, and promoted rows with
nothing to repair at the same clock: a second run at that clock finds nothing.
-/

namespace TradingBot.Overtime

open TradingBot TradingBot.Misc

section Working

variable {c : Repair} {rows : List OfferRequest}

section After

variable {s : Session} {r : OfferRequest} {f : Finding}

def Repair.targets (c : Repair) (rows : List OfferRequest) : List (String × Finding) :=
  Rule.repairTargets c.ambient c.jobs c.clock c.lifetime c.limit (c.call.session rows)

def Repair.locked (c : Repair) (rows : List OfferRequest) : List OfferRequest :=
  Rule.lockedRows c.ambient (c.targets rows) (c.call.session rows)

end After

end Working

end TradingBot.Overtime
