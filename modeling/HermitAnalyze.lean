import HermitAnalyze.Main
import HermitAnalyze.WriteSets
