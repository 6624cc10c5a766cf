import FactorialCheck.Configuration.Json
import FactorialCheck.Json.Reader
import FactorialCheck.Main
import FactorialCheck.Proofs.Announcements
import FactorialCheck.Proofs.CommandLine.Stops
import FactorialCheck.Proofs.CommandLine.Understanding
import FactorialCheck.Proofs.Defaults
import FactorialCheck.Proofs.Diagnostics
import FactorialCheck.Proofs.Histories
import FactorialCheck.Proofs.InputLanguage
import FactorialCheck.Proofs.InputSources
import FactorialCheck.Proofs.Interference
import FactorialCheck.Proofs.Json.Scalars
import FactorialCheck.Proofs.Json.Texts
import FactorialCheck.Proofs.Output
import FactorialCheck.Proofs.Quotations
import FactorialCheck.Proofs.ReportLine
import FactorialCheck.Proofs.ReportValue
import FactorialCheck.Proofs.RuleSets
import FactorialCheck.Proofs.Stages
import FactorialCheck.Proofs.StrategyNames
import FactorialCheck.Proofs.Traces
import FactorialCheck.Session
import FactorialCheck.Strategy.Json
