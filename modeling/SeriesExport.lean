import SeriesExport.Main
import SeriesExport.Server
import SeriesExport.Proofs.Paging
import SeriesExport.Proofs.Fetching
import SeriesExport.Proofs.Plan
import SeriesExport.Proofs.Completeness
import SeriesExport.Proofs.Abortable
import SeriesExport.Proofs.Cancellation
import SeriesExport.Proofs.FailFast
import SeriesExport.Proofs.Layouts
import SeriesExport.Proofs.Authorized
import SeriesExport.Proofs.PageBounds
import SeriesExport.Proofs.Sessions
import SeriesExport.Proofs.Carriers
import SeriesExport.Proofs.WholeListing
import SeriesExport.Proofs.Flags
import SeriesExport.Proofs.Selection
import SeriesExport.Proofs.Program
import SeriesExport.Proofs.Delivery
import SeriesExport.Proofs.Independence
import SeriesExport.Proofs.Agreement
import SeriesExport.Proofs.Columns
import SeriesExport.Proofs.SentWindows
import SeriesExport.Proofs.ExplicitChoices
import SeriesExport.Proofs.Verdicts
import SeriesExport.Proofs.Merging
import SeriesExport.Proofs.SourceTexts
import SeriesExport.Proofs.Presentation
import SeriesExport.Proofs.Instants
import SeriesExport.Proofs.Catalogs
import SeriesExport.Proofs.Settings
import SeriesExport.Proofs.Stores
import SeriesExport.Proofs.SpacedLists
