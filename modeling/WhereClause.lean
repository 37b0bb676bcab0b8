import WhereClause.CommandLine.Run
import WhereClause.Main
import WhereClause.Node.Named
import WhereClause.Proofs.Agreement
import WhereClause.Proofs.Brackets
import WhereClause.Proofs.ColumnLists
import WhereClause.Proofs.Compound
import WhereClause.Proofs.Containment
import WhereClause.Proofs.NestingLimit
import WhereClause.Proofs.NotFinite
import WhereClause.Proofs.ParseRendered
import WhereClause.Proofs.PlainReading
import WhereClause.Proofs.QuotedNames
import WhereClause.Proofs.QuotedScan
import WhereClause.Proofs.RunOutcome
import WhereClause.Proofs.Safety
import WhereClause.Proofs.ShorthandReload
import WhereClause.Proofs.StoredQuery
import WhereClause.Proofs.StoredRendering
import WhereClause.Proofs.WordTexts
