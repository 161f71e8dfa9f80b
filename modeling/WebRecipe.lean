import WebRecipe.Http.Service
import WebRecipe.Main
import WebRecipe.Proofs.BaseDir.Astray
import WebRecipe.Proofs.Block
import WebRecipe.Proofs.Condition.Bindings
import WebRecipe.Proofs.Condition.Building
import WebRecipe.Proofs.Condition.Comparison
import WebRecipe.Proofs.Condition.Coverage
import WebRecipe.Proofs.Condition.Flattening
import WebRecipe.Proofs.Condition.Growth
import WebRecipe.Proofs.Condition.Indexing
import WebRecipe.Proofs.Condition.JsonForm
import WebRecipe.Proofs.Condition.Membership
import WebRecipe.Proofs.Condition.Operand
import WebRecipe.Proofs.Condition.Precedence
import WebRecipe.Proofs.Condition.Properties
import WebRecipe.Proofs.Condition.Searching
import WebRecipe.Proofs.Condition.Slicing
import WebRecipe.Proofs.Condition.Sorting
import WebRecipe.Proofs.Condition.Spelling
import WebRecipe.Proofs.Condition.WellFormed
import WebRecipe.Proofs.Files
import WebRecipe.Proofs.Integers
import WebRecipe.Proofs.Json.RoundTrip
import WebRecipe.Proofs.Login.Cookies
import WebRecipe.Proofs.Login.Secret
import WebRecipe.Proofs.Login.Submission
import WebRecipe.Proofs.Loop.Condition
import WebRecipe.Proofs.Loop.Counting
import WebRecipe.Proofs.Loop.Items
import WebRecipe.Proofs.Number.Digits
import WebRecipe.Proofs.Number.Natural
import WebRecipe.Proofs.Number.Rounding
import WebRecipe.Proofs.Number.Whole
import WebRecipe.Proofs.Page.Active
import WebRecipe.Proofs.Page.Calls
import WebRecipe.Proofs.Page.Closed
import WebRecipe.Proofs.Page.Typed
import WebRecipe.Proofs.Path.Inside
import WebRecipe.Proofs.Placeholder
import WebRecipe.Proofs.RateLimit.Answers
import WebRecipe.Proofs.RateLimit.ComingBack
import WebRecipe.Proofs.Recipe.Accepted
import WebRecipe.Proofs.Recipe.Directory
import WebRecipe.Proofs.Recipe.Fitting
import WebRecipe.Proofs.Recipe.Issues
import WebRecipe.Proofs.Recipe.Read
import WebRecipe.Proofs.Registry
import WebRecipe.Proofs.Required.Agreement
import WebRecipe.Proofs.Retry
import WebRecipe.Proofs.Retry.Cause
import WebRecipe.Proofs.Routine.Contract
import WebRecipe.Proofs.Run.Counters
import WebRecipe.Proofs.Run.Lines
import WebRecipe.Proofs.Run.Outcome
import WebRecipe.Proofs.Schema.Projection
import WebRecipe.Proofs.Store
import WebRecipe.Proofs.Text.Occurrence
import WebRecipe.Proofs.TextFile.Appending
import WebRecipe.Proofs.TextFile.ReadBack
import WebRecipe.Rehearsal
import WebRecipe.Run.Basic
import WebRecipe.Text.Lossy
