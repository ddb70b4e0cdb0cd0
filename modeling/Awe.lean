import Awe.Lib.Runs
import Awe.Lib.GoMap
import Awe.Lib.Fallible
import Awe.Lib.KeyedWrites
import Awe.Lib.InPlace
import Awe.Lib.Path
import Awe.Lib.Odometer
import Awe.Lib.Follow
import Awe.Lib.EvenSplit
import Awe.Lib.Decimal
import Awe.Core.Workunit
import Awe.Core.WorkQueue
import Awe.Core.QueueRepresentation
import Awe.Core.CWL
import Awe.Core.Store
import Awe.Core.Instances
import Awe.Core.Readiness
import Awe.Core.InputLookup
import Awe.Core.CQMgr
import Awe.Core.ServerMgr
import Awe.Core.Completion
import Awe.Core.Identifiers
import Awe.Core.WorkPath
import Awe.Core.Dependencies
import Awe.Core.ClientControl
import Awe.Core.ClosingReports
import Awe.Core.ResetTask
import Awe.Core.Sources
import Awe.Core.StepInputs
import Awe.Core.Requirements
import Awe.Core.JobControl
import Awe.Core.Ancestors
import Awe.Core.JobRemoval
import Awe.Core.Restart
import Awe.Core.OldStyleJobs
import Awe.Core.Notices
import Awe.Core.Scatter
import Awe.Core.ScatterChildren
import Awe.Core.ScatterExpansion
import Awe.Core.ScatterGather
import Awe.Core.EmptyScatter
import Awe.Core.Reports
import Awe.Core.StepCounter
import Awe.Core.StepCounterRuns
import Awe.Core.WorkflowOutputs
import Awe.Core.Checkout
import Awe.Core.CheckoutAccounting
import Awe.Core.CheckoutSafety
import Awe.Core.Selection
import Awe.Core.Scheduling
import Awe.Core.Partition
import Awe.Core.Enqueued
import Awe.Core.TaskState
import Awe.Worker.Conservation
import Awe.Worker.Discard
import Awe.Cwl.InputCheck
import Awe.Cwl.Wire
import Awe.Cwl.NoticeWire
import Awe.Cwl.TypePositions
import Awe.Cwl.MapForms
import Awe.Cwl.EvaluatedRequirements
import Awe.Cwl.Imports
import Awe.Cwl.Panics
import Awe.Cwl.KeptRequirements
import Awe.Core.ScatterMergeChildren
import Awe.Core.Interpolation
import Awe.Core.ToolDefaults
import Awe.Cache.Upload
import Awe.Cache.Workflows
import Awe.Lib.Cells
import Awe.Lib.LastWrite
import Awe.Acl.Rights
import Awe.Cwl.Schemata
import Awe.Core.Expiration
import Awe.Lib.Mirror
import Awe.Core.WorkLists
import Awe.Cache.Metadata
import Awe.Lib.Utf8
import Awe.Lib.Scanner
import Awe.Worker.Arguments
import Awe.Worker.ArgumentParts
import Awe.Worker.ArgumentStrings
import Awe.Worker.ArgumentTexts
import Awe.Lib.Fields
import Awe.Worker.Scripts
import Awe.Lib.Files
import Awe.Worker.Predata
import Awe.Lib.Absolute
import Awe.Cache.Download
