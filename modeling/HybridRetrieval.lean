import HybridRetrieval.CommandLine.Outcome
import HybridRetrieval.CommandLine.Parameter
import HybridRetrieval.CommandLine.Request
import HybridRetrieval.Database.Basic
import HybridRetrieval.Database.Image
import HybridRetrieval.Database.Inspection
import HybridRetrieval.Database.Schema
import HybridRetrieval.Database.TableNames
import HybridRetrieval.Disk.Basic
import HybridRetrieval.Embedding.Bytes
import HybridRetrieval.Embedding.Cosine
import HybridRetrieval.Filter.Evaluation
import HybridRetrieval.Json.Metadata
import HybridRetrieval.Lexeme.Analyzer
import HybridRetrieval.Main
import HybridRetrieval.Node.Basic
import HybridRetrieval.Number.Shortest
import HybridRetrieval.Number.Summation
import HybridRetrieval.Proofs.Database.Entries
import HybridRetrieval.Proofs.Database.Names
import HybridRetrieval.Proofs.Database.Tables
import HybridRetrieval.Proofs.Disk.Databases
import HybridRetrieval.Proofs.Disk.Reopening
import HybridRetrieval.Proofs.Embedding.Bytes
import HybridRetrieval.Proofs.Json.Decoding
import HybridRetrieval.Proofs.Json.NumberReadBack
import HybridRetrieval.Proofs.Json.NumberText
import HybridRetrieval.Proofs.Json.ReadBack
import HybridRetrieval.Proofs.Json.Spelling
import HybridRetrieval.Proofs.Json.StringText
import HybridRetrieval.Proofs.Lexeme.DocumentTerms
import HybridRetrieval.Proofs.Lexeme.Words
import HybridRetrieval.Proofs.Node.NestingLimit
import HybridRetrieval.Proofs.Node.ReadBack
import HybridRetrieval.Proofs.Number.Arithmetic
import HybridRetrieval.Proofs.Number.Order
import HybridRetrieval.Proofs.Number.Rounding
import HybridRetrieval.Proofs.Number.Shortest
import HybridRetrieval.Proofs.Query.Best
import HybridRetrieval.Proofs.Query.Fusion
import HybridRetrieval.Proofs.Session.Additions
import HybridRetrieval.Proofs.Session.Closed
import HybridRetrieval.Proofs.Session.Deletions
import HybridRetrieval.Proofs.Session.Dimension
import HybridRetrieval.Proofs.Session.Effects
import HybridRetrieval.Proofs.Session.HandleChoice
import HybridRetrieval.Proofs.Session.HybridQuery
import HybridRetrieval.Proofs.Session.IndexInStep
import HybridRetrieval.Proofs.Session.Keyed
import HybridRetrieval.Proofs.Session.LastAdditions
import HybridRetrieval.Proofs.Session.LateHybrid
import HybridRetrieval.Proofs.Session.NearestNodes
import HybridRetrieval.Proofs.Session.ReadBack
import HybridRetrieval.Proofs.Session.Readable
import HybridRetrieval.Proofs.Session.Run
import HybridRetrieval.Proofs.Session.Stocks
import HybridRetrieval.Proofs.Steps
import HybridRetrieval.Proofs.Store.Alike
import HybridRetrieval.Proofs.Store.Deletion
import HybridRetrieval.Proofs.Store.DenseQuery
import HybridRetrieval.Proofs.Store.Equipped
import HybridRetrieval.Proofs.Store.FailedOpening
import HybridRetrieval.Proofs.Store.History
import HybridRetrieval.Proofs.Store.Hits
import HybridRetrieval.Proofs.Store.Index
import HybridRetrieval.Proofs.Store.LateIndex
import HybridRetrieval.Proofs.Store.Listings
import HybridRetrieval.Proofs.Store.Namespaces
import HybridRetrieval.Proofs.Store.Opening
import HybridRetrieval.Proofs.Store.Served
import HybridRetrieval.Proofs.Store.SparseQuery
import HybridRetrieval.Proofs.Store.Stock
import HybridRetrieval.Proofs.Store.Stocked
import HybridRetrieval.Proofs.Store.Tidy
import HybridRetrieval.Proofs.Store.Upserts
import HybridRetrieval.Proofs.Store.WellKept
import HybridRetrieval.Query.Fusion
import HybridRetrieval.Report.Table
import HybridRetrieval.Session.Basic
import HybridRetrieval.Session.Operation
import HybridRetrieval.Settings.Stored
import HybridRetrieval.Store.Event
import HybridRetrieval.Store.Import
import HybridRetrieval.Store.Read
import HybridRetrieval.Store.Search
import HybridRetrieval.Store.Write
import HybridRetrieval.Text.Quoted
import HybridRetrieval.Proofs.Query.Restriction
import HybridRetrieval.Proofs.Store.Filtering
import HybridRetrieval.Proofs.Session.Filtering
import HybridRetrieval.Proofs.Filter.Characters
import HybridRetrieval.Proofs.Filter.Comparison
import HybridRetrieval.Proofs.Filter.Label
import HybridRetrieval.Proofs.Filter.Meaning
import HybridRetrieval.Proofs.Session.FilteredNodes
import HybridRetrieval.Proofs.Disk.TextFiles
import HybridRetrieval.Proofs.Settings.ReadBack
import HybridRetrieval.Proofs.Query.FirstHits
import HybridRetrieval.Proofs.Settings.Freezing
import HybridRetrieval.Proofs.Store.BatchImport
import HybridRetrieval.Proofs.CommandLine.OpenedStore
import HybridRetrieval.Proofs.CommandLine.Import
import HybridRetrieval.Proofs.Filter.Rendering
import HybridRetrieval.Proofs.Session.RefusedKeys
import HybridRetrieval.Proofs.Session.Arranged
import HybridRetrieval.Proofs.Session.SparseRanking
import HybridRetrieval.Proofs.Store.Commuting
import HybridRetrieval.Proofs.Session.Orphans
import HybridRetrieval.Proofs.Session.Commuting
import HybridRetrieval.Proofs.Lexeme.Passages
import HybridRetrieval.Proofs.Lexeme.LowerCase
import HybridRetrieval.Proofs.Session.OwnText
import HybridRetrieval.Proofs.Session.WordForms
import HybridRetrieval.Proofs.Database.SafeNames
import HybridRetrieval.Proofs.Lexeme.StemBounds
import HybridRetrieval.Proofs.Session.EveryTable
import HybridRetrieval.Proofs.Session.IndexedLexemes
import HybridRetrieval.Proofs.Filter.Words
