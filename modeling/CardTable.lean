import CardTable.EventLoop
import CardTable.Main
import CardTable.Proofs.Session.PendingChoice
import CardTable.Proofs.Client.Run
import CardTable.Proofs.Client.Delivery
import CardTable.Proofs.EventLoop.Sequential
import CardTable.Proofs.Client.FrameAccounting
import CardTable.Proofs.Json.Spelling
import CardTable.Proofs.Json.Reading
import CardTable.Proofs.Json.Compact
import CardTable.Proofs.Request.Wire
import CardTable.Proofs.Frame.LastMember
import CardTable.Proofs.Line.Quoting
import CardTable.Proofs.Client.Verbatim
import CardTable.Proofs.Client.Caller
import CardTable.Proofs.Client.LostChoice
import CardTable.Proofs.Client.OrderIndependence
import CardTable.Proofs.Client.ActivePlayers
import CardTable.Proofs.Client.Recall
import CardTable.Proofs.Command.DecisionTable
import CardTable.Proofs.Session.LineRequests
import CardTable.Proofs.Launch.Start
import CardTable.Proofs.Line.Grammar
import CardTable.Proofs.Line.TokenLists
import CardTable.Proofs.Line.Retokenizing
import CardTable.Proofs.Json.KeyOrder
import CardTable.Proofs.Frame.MessageData
import CardTable.Proofs.Markup.Escaping
import CardTable.Proofs.Client.OfferedOptions
import CardTable.Proofs.Client.RepeatedOptions
import CardTable.Proofs.Identity.Judgement
import CardTable.Proofs.History.Browsing
import CardTable.Proofs.Config.BasePath
import CardTable.Proofs.Config.Strict
import CardTable.Proofs.Request.Index
import CardTable.Proofs.Session.OptionLabels
import CardTable.Proofs.Line.Composition
import CardTable.Proofs.Text.Ranges
