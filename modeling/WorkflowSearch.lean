import WorkflowSearch.Text.Blank
import WorkflowSearch.Text.Alphanumeric
import WorkflowSearch.Text.Lowercase
import WorkflowSearch.Scalar.Double
import WorkflowSearch.Json.Parser
import WorkflowSearch.Json.Printer
import WorkflowSearch.Json.Decode
import WorkflowSearch.Dataset.Json
import WorkflowSearch.Schema
import WorkflowSearch.Blueprint.Wiring
import WorkflowSearch.Blueprint.Json
import WorkflowSearch.Blueprint.Document
import WorkflowSearch.Config.Profile
import WorkflowSearch.Config.Document
import WorkflowSearch.Random.ChaCha
import WorkflowSearch.Synthesis.Basic
import WorkflowSearch.Service.Scripted
import WorkflowSearch.Fixture
import WorkflowSearch.Config.Variables
import WorkflowSearch.Judge.Lexical
import WorkflowSearch.Judge.Rubric
import WorkflowSearch.Service.Retry
import WorkflowSearch.Service.Remote
import WorkflowSearch.Evaluation.Concurrency
import WorkflowSearch.Evaluation.Json
import WorkflowSearch.Search.ToolRanking
import WorkflowSearch.Search.Prompt
import WorkflowSearch.Search.Families
import WorkflowSearch.Search.Selection
import WorkflowSearch.Search.EarlyStop
import WorkflowSearch.Search.Run
import WorkflowSearch.Optimization.Json
import WorkflowSearch.Config.Source
import WorkflowSearch.CommandLine.Arguments
import WorkflowSearch.CommandLine.EnvFile
import WorkflowSearch.CommandLine.Command
import WorkflowSearch.Main
import WorkflowSearch.Proofs.Optimization.TestIsolation
import WorkflowSearch.Proofs.Optimization.Failures
import WorkflowSearch.Proofs.Optimization.CatalogOrder
import WorkflowSearch.Proofs.Search.Prompt
import WorkflowSearch.Proofs.Search.Growth
import WorkflowSearch.Proofs.Search.Conformance
import WorkflowSearch.Proofs.Search.Subtree
import WorkflowSearch.Proofs.Search.Lineage
import WorkflowSearch.Proofs.Search.Visits
import WorkflowSearch.Proofs.Search.ToolGains
import WorkflowSearch.Proofs.Search.GainAverage
import WorkflowSearch.Proofs.Search.Credits
import WorkflowSearch.Proofs.Search.PromptScore
import WorkflowSearch.Proofs.Search.Variants
import WorkflowSearch.Proofs.Scalar.Order
import WorkflowSearch.Proofs.Scalar.Numbers
import WorkflowSearch.Proofs.Text.Numbered
import WorkflowSearch.Proofs.Text.Phrases
import WorkflowSearch.Proofs.Judge.Consistency
import WorkflowSearch.Proofs.Evaluation.FailureAccounting
import WorkflowSearch.Proofs.Search.Improvements
import WorkflowSearch.Proofs.Search.Log
import WorkflowSearch.Proofs.Search.Selection
import WorkflowSearch.Proofs.Search.Rounds
import WorkflowSearch.Proofs.Search.Capacity
import WorkflowSearch.Proofs.Search.EarlyStop
import WorkflowSearch.Proofs.Search.Truncation
import WorkflowSearch.Proofs.Synthesis.Drafts
import WorkflowSearch.Proofs.Synthesis.Integrity
import WorkflowSearch.Proofs.Synthesis.Completeness
import WorkflowSearch.Proofs.Synthesis.Coverage
import WorkflowSearch.Proofs.Judge.Lexical
import WorkflowSearch.Proofs.Judge.Aggregate
import WorkflowSearch.Proofs.Judge.Ensemble
import WorkflowSearch.Proofs.Service.Simulated
import WorkflowSearch.Proofs.Synthesis.Answers
import WorkflowSearch.Proofs.Service.Recovery
import WorkflowSearch.Proofs.Evaluation.Exclusion
import WorkflowSearch.Proofs.Search.Attempts
import WorkflowSearch.Proofs.Service.Counters
import WorkflowSearch.Proofs.Evaluation.Batch
import WorkflowSearch.Proofs.Evaluation.Concurrency
import WorkflowSearch.Proofs.Search.Frames
import WorkflowSearch.Proofs.Search.Switching
import WorkflowSearch.Proofs.Synthesis.HardNegatives
import WorkflowSearch.Proofs.Synthesis.SplitSizes
import WorkflowSearch.Proofs.Judge.Range
import WorkflowSearch.Proofs.Evaluation.Range
import WorkflowSearch.Proofs.Config.Defaults
import WorkflowSearch.Proofs.Service.Retry
import WorkflowSearch.Proofs.Service.Backoff
import WorkflowSearch.Proofs.Search.Scheduling
import WorkflowSearch.Proofs.Search.Lockstep
import WorkflowSearch.Proofs.Search.Randomness
import WorkflowSearch.Proofs.Config.Profile
import WorkflowSearch.Proofs.Evaluation.Replay
import WorkflowSearch.Proofs.Optimization.Reproduction
import WorkflowSearch.Proofs.Blueprint.Faults
import WorkflowSearch.Proofs.Blueprint.Graph
import WorkflowSearch.Proofs.Blueprint.Encoding
import WorkflowSearch.Proofs.Search.Evolution
import WorkflowSearch.Proofs.Judge.Reply
import WorkflowSearch.Proofs.Search.Arena
import WorkflowSearch.Proofs.Synthesis.Sketches
import WorkflowSearch.Proofs.Synthesis.Mentions
