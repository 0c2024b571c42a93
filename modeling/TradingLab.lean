import TradingLab.Properties.Recovery
import TradingLab.Properties.SettlementPaths
import TradingLab.Properties.DigitProgression
import TradingLab.Properties.Ceilings
import TradingLab.Properties.RejectedNotBought
import TradingLab.Properties.AbsenceEvidence
import TradingLab.Properties.DigitExtraction
import TradingLab.Properties.SafeStop
import TradingLab.Properties.NotFoundProof
import TradingLab.Properties.ManifestHistory
import TradingLab.Properties.DailyLimits
import TradingLab.Properties.Demotion
import TradingLab.Properties.HoldoutOnce
import TradingLab.Properties.LosslessFraming
import TradingLab.Properties.ReplayWindow
import TradingLab.Properties.LossBudget
import TradingLab.Properties.Reconfiguration
import TradingLab.Properties.VerifiedOnly
import TradingLab.Properties.SettlementEvents
import TradingLab.Properties.EventNumbers
import TradingLab.Properties.LiveConnection
import TradingLab.Properties.DigitWindow
import TradingLab.Properties.MessageWindow
import TradingLab.Properties.OrderBook
import TradingLab.Properties.DispatchDiscipline
import TradingLab.Properties.Drawdown
import TradingLab.Properties.LeaseExclusion
import TradingLab.Properties.CommandUploads
import TradingLab.Properties.ContractReports
import TradingLab.Properties.FailedUpdate
import TradingLab.Properties.ProbeSlots
import TradingLab.Properties.PublishedCurrent
import TradingLab.Properties.TradingReadiness
import TradingLab.Properties.NoLookAhead
import TradingLab.Properties.WindowPartition
import TradingLab.Properties.LoginStorm
import TradingLab.Properties.HoldoutSeparation
import TradingLab.Properties.FalseDiscovery
import TradingLab.Properties.WilsonBound
import TradingLab.Properties.Provenance
import TradingLab.Properties.DurableHistory
import TradingLab.Properties.FencingTokens
import TradingLab.Properties.GapAccounting
