/-!
# Legacy macros

The macros that stand for characters outside ASCII in documents without Unicode input: accented
Latin letters, ligatures and typographic signs as text macros, and Greek letters and mathematical
signs wrapped in a macro that makes sure of math mode.
-/

namespace FormulaTex
namespace Latex
namespace Accent

/-- The macro text of a code point. -/
def macros : List (Nat × String) := [
  (0xA0, "~"), (0xA1, "\\textexclamdown"), (0xA2, "\\textcent"), (0xA3, "\\textsterling"),
  (0xA4, "\\textcurrency"), (0xA5, "\\textyen"), (0xA6, "\\textbrokenbar"),
  (0xA7, "\\textsection"), (0xA8, "\\textasciidieresis"), (0xA9, "\\textcopyright"),
  (0xAA, "\\textordfeminine"), (0xAB, "\\guillemotleft"), (0xAC, "\\textlnot"), (0xAD, "\\-"),
  (0xAE, "\\textregistered"), (0xAF, "\\textasciimacron"), (0xB0, "\\textdegree"),
  (0xB1, "\\ensuremath\x7b\\pm\x7d"), (0xB2, "\\texttwosuperior"), (0xB3, "\\textthreesuperior"),
  (0xB4, "\\textasciiacute"), (0xB5, "\\textmu"), (0xB6, "\\textparagraph"),
  (0xB7, "\\textperiodcentered"), (0xB9, "\\textonesuperior"), (0xBA, "\\textordmasculine"),
  (0xBB, "\\guillemotright"), (0xBC, "\\textonequarter"), (0xBD, "\\textonehalf"),
  (0xBE, "\\textthreequarters"), (0xBF, "\\textquestiondown"), (0xC0, "\\\x60A"), (0xC1, "\\'A"),
  (0xC2, "\\^A"), (0xC3, "\\~A"), (0xC4, "\\\x22A"), (0xC5, "\\r\x7bA\x7d"), (0xC6, "\\AE"),
  (0xC7, "\\c\x7bC\x7d"), (0xC8, "\\\x60E"), (0xC9, "\\'E"), (0xCA, "\\^E"), (0xCB, "\\\x22E"),
  (0xCC, "\\\x60I"), (0xCD, "\\'I"), (0xCE, "\\^I"), (0xCF, "\\\x22I"), (0xD0, "\\DH"),
  (0xD1, "\\~N"), (0xD2, "\\\x60O"), (0xD3, "\\'O"), (0xD4, "\\^O"), (0xD5, "\\~O"),
  (0xD6, "\\\x22O"), (0xD7, "\\texttimes"), (0xD8, "\\O"), (0xD9, "\\\x60U"), (0xDA, "\\'U"),
  (0xDB, "\\^U"), (0xDC, "\\\x22U"), (0xDD, "\\'Y"), (0xDE, "\\TH"), (0xDF, "\\ss"),
  (0xE0, "\\\x60a"), (0xE1, "\\'a"), (0xE2, "\\^a"), (0xE3, "\\~a"), (0xE4, "\\\x22a"),
  (0xE5, "\\r\x7ba\x7d"), (0xE6, "\\ae"), (0xE7, "\\c\x7bc\x7d"), (0xE8, "\\\x60e"),
  (0xE9, "\\'e"), (0xEA, "\\^e"), (0xEB, "\\\x22e"), (0xEC, "\\\x60\\i"), (0xED, "\\'\\i"),
  (0xEE, "\\^\\i"), (0xEF, "\\\x22\\i"), (0xF0, "\\dh"), (0xF1, "\\~n"), (0xF2, "\\\x60o"),
  (0xF3, "\\'o"), (0xF4, "\\^o"), (0xF5, "\\~o"), (0xF6, "\\\x22o"), (0xF7, "\\textdiv"),
  (0xF8, "\\o"), (0xF9, "\\\x60u"), (0xFA, "\\'u"), (0xFB, "\\^u"), (0xFC, "\\\x22u"),
  (0xFD, "\\'y"), (0xFE, "\\th"), (0xFF, "\\\x22y"), (0x100, "\\=\x7bA\x7d"),
  (0x101, "\\=\x7ba\x7d"), (0x102, "\\u\x7bA\x7d"), (0x103, "\\u\x7ba\x7d"),
  (0x104, "\\k\x7bA\x7d"), (0x105, "\\k\x7ba\x7d"), (0x106, "\\'C"), (0x107, "\\'c"),
  (0x108, "\\^\x7bC\x7d"), (0x109, "\\^\x7bc\x7d"), (0x10A, "\\.\x7bC\x7d"),
  (0x10B, "\\.\x7bc\x7d"), (0x10C, "\\v\x7bC\x7d"), (0x10D, "\\v\x7bc\x7d"),
  (0x10E, "\\v\x7bD\x7d"), (0x10F, "\\v\x7bd\x7d"), (0x110, "\\DJ"), (0x111, "\\dj"),
  (0x112, "\\=\x7bE\x7d"), (0x113, "\\=\x7be\x7d"), (0x114, "\\u\x7bE\x7d"),
  (0x115, "\\u\x7be\x7d"), (0x116, "\\.\x7bE\x7d"), (0x117, "\\.\x7be\x7d"),
  (0x118, "\\k\x7bE\x7d"), (0x119, "\\k\x7be\x7d"), (0x11A, "\\v\x7bE\x7d"),
  (0x11B, "\\v\x7be\x7d"), (0x11C, "\\^\x7bG\x7d"), (0x11D, "\\^\x7bg\x7d"),
  (0x11E, "\\u\x7bG\x7d"), (0x11F, "\\u\x7bg\x7d"), (0x120, "\\.\x7bG\x7d"),
  (0x121, "\\.\x7bg\x7d"), (0x122, "\\c\x7bG\x7d"), (0x123, "\\c\x7bg\x7d"),
  (0x124, "\\^\x7bH\x7d"), (0x125, "\\^\x7bh\x7d"), (0x126, "\\=\x7bH\x7d"),
  (0x127, "\\=\x7bh\x7d"), (0x128, "\\~\x7bI\x7d"), (0x129, "\\~\x7bi\x7d"),
  (0x12A, "\\=\x7bI\x7d"), (0x12B, "\\=\x7bi\x7d"), (0x12C, "\\u\x7bI\x7d"),
  (0x12D, "\\u\x7bi\x7d"), (0x12E, "\\k\x7bI\x7d"), (0x12F, "\\k\x7bi\x7d"), (0x130, "\\.I"),
  (0x131, "\\i"), (0x132, "\\IJ"), (0x133, "\\ij"), (0x134, "\\^\x7bJ\x7d"),
  (0x135, "\\^\x7bj\x7d"), (0x136, "\\c\x7bK\x7d"), (0x137, "\\c\x7bk\x7d"),
  (0x138, "\\textsc\x7bk\x7d"), (0x139, "\\'L"), (0x13A, "\\'l"), (0x13B, "\\c\x7bL\x7d"),
  (0x13C, "\\c\x7bl\x7d"), (0x13D, "\\v\x7bL\x7d"), (0x13E, "\\v\x7bl\x7d"),
  (0x13F, "\\.\x7bL\x7d"), (0x140, "\\.\x7bl\x7d"), (0x141, "\\L"), (0x142, "\\l"),
  (0x143, "\\'N"), (0x144, "\\'n"), (0x145, "\\c\x7bN\x7d"), (0x146, "\\c\x7bn\x7d"),
  (0x147, "\\v\x7bN\x7d"), (0x148, "\\v\x7bn\x7d"), (0x149, "\\nument\x7b149\x7d"),
  (0x14A, "\\NG"), (0x14B, "\\ng"), (0x14C, "\\=\x7bO\x7d"), (0x14D, "\\=\x7bo\x7d"),
  (0x14E, "\\u\x7bO\x7d"), (0x14F, "\\u\x7bo\x7d"), (0x150, "\\H\x7bO\x7d"),
  (0x151, "\\H\x7bo\x7d"), (0x152, "\\OE"), (0x153, "\\oe"), (0x154, "\\'R"), (0x155, "\\'r"),
  (0x156, "\\c\x7bR\x7d"), (0x157, "\\c\x7br\x7d"), (0x158, "\\v\x7bR\x7d"),
  (0x159, "\\v\x7br\x7d"), (0x15A, "\\'S"), (0x15B, "\\'s"), (0x15C, "\\^\x7bS\x7d"),
  (0x15D, "\\^\x7bs\x7d"), (0x15E, "\\c\x7bS\x7d"), (0x15F, "\\c\x7bs\x7d"),
  (0x160, "\\v\x7bS\x7d"), (0x161, "\\v\x7bs\x7d"), (0x162, "\\c\x7bT\x7d"),
  (0x163, "\\c\x7bt\x7d"), (0x164, "\\v\x7bT\x7d"), (0x165, "\\v\x7bt\x7d"),
  (0x166, "\\=\x7bT\x7d"), (0x167, "\\=\x7bt\x7d"), (0x168, "\\~\x7bU\x7d"),
  (0x169, "\\~\x7bu\x7d"), (0x16A, "\\=\x7bU\x7d"), (0x16B, "\\=\x7bu\x7d"),
  (0x16C, "\\u\x7bU\x7d"), (0x16D, "\\u\x7bu\x7d"), (0x16E, "\\r\x7bU\x7d"),
  (0x16F, "\\r\x7bu\x7d"), (0x170, "\\'\x7bU\x7d"), (0x171, "\\'\x7bu\x7d"),
  (0x172, "\\k\x7bU\x7d"), (0x173, "\\k\x7bu\x7d"), (0x174, "\\^\x7bW\x7d"),
  (0x175, "\\^\x7bw\x7d"), (0x176, "\\^\x7bY\x7d"), (0x177, "\\^\x7by\x7d"), (0x178, "\\\x22Y"),
  (0x179, "\\'Z"), (0x17A, "\\'z"), (0x17B, "\\.Z"), (0x17C, "\\.z"), (0x17D, "\\v\x7bZ\x7d"),
  (0x17E, "\\v\x7bz\x7d"), (0x1E7, "\\v\x7bg\x7d"), (0x1F5, "\\'\x7bg\x7d"),
  (0x307, "\\ensuremath\x7b\\dot\x7b\x7d\x7d"), (0x308, "\\ensuremath\x7b\\ddot\x7b\x7d\x7d"),
  (0x391, "A"), (0x392, "B"), (0x393, "\\ensuremath\x7b\\Gamma\x7d"),
  (0x394, "\\ensuremath\x7b\\Delta\x7d"), (0x395, "E"), (0x396, "Z"), (0x397, "H"),
  (0x398, "\\ensuremath\x7b\\Theta\x7d"), (0x399, "I"), (0x39A, "K"),
  (0x39B, "\\ensuremath\x7b\\Lambda\x7d"), (0x39C, "M"), (0x39D, "N"),
  (0x39E, "\\ensuremath\x7b\\Xi\x7d"), (0x39F, "O"), (0x3A0, "\\ensuremath\x7b\\Pi\x7d"),
  (0x3A1, "P"), (0x3A3, "\\ensuremath\x7b\\Sigma\x7d"), (0x3A4, "T"),
  (0x3A5, "\\ensuremath\x7b\\Upsilon\x7d"), (0x3A6, "\\ensuremath\x7b\\Phi\x7d"), (0x3A7, "X"),
  (0x3A8, "\\ensuremath\x7b\\Psi\x7d"), (0x3A9, "\\ensuremath\x7b\\Omega\x7d"),
  (0x3AA, "\\ensuremath\x7b\\ddot\x7bI\x7d\x7d"), (0x3AB, "\\ensuremath\x7b\\ddot\x7bY\x7d\x7d"),
  (0x3AC, "\\ensuremath\x7b\\acute\\alpha\x7d"), (0x3AD, "\\ensuremath\x7b\\acute\\epsilon\x7d"),
  (0x3AE, "\\ensuremath\x7b\\acute\\eta\x7d"), (0x3AF, "\\ensuremath\x7b\\acute\\iota\x7d"),
  (0x3B0, "\\ensuremath\x7b\\acute\x7b\\ddot\x7b\\upsilon\x7d\x7d\x7d"),
  (0x3B1, "\\ensuremath\x7b\\alpha\x7d"), (0x3B2, "\\ensuremath\x7b\\beta\x7d"),
  (0x3B3, "\\ensuremath\x7b\\gamma\x7d"), (0x3B4, "\\ensuremath\x7b\\delta\x7d"),
  (0x3B5, "\\ensuremath\x7b\\varepsilon\x7d"), (0x3B6, "\\ensuremath\x7b\\zeta\x7d"),
  (0x3B7, "\\ensuremath\x7b\\eta\x7d"), (0x3B8, "\\ensuremath\x7b\\theta\x7d"),
  (0x3B9, "\\ensuremath\x7b\\iota\x7d"), (0x3BA, "\\ensuremath\x7b\\kappa\x7d"),
  (0x3BB, "\\ensuremath\x7b\\lambda\x7d"), (0x3BC, "\\ensuremath\x7b\\mu\x7d"),
  (0x3BD, "\\ensuremath\x7b\\nu\x7d"), (0x3BE, "\\ensuremath\x7b\\xi\x7d"), (0x3BF, "o"),
  (0x3C0, "\\ensuremath\x7b\\pi\x7d"), (0x3C1, "\\ensuremath\x7b\\rho\x7d"),
  (0x3C2, "\\ensuremath\x7b\\varsigma\x7d"), (0x3C3, "\\ensuremath\x7b\\sigma\x7d"),
  (0x3C4, "\\ensuremath\x7b\\tau\x7d"), (0x3C5, "\\ensuremath\x7b\\upsilon\x7d"),
  (0x3C6, "\\ensuremath\x7b\\varphi\x7d"), (0x3C7, "\\ensuremath\x7b\\chi\x7d"),
  (0x3C8, "\\ensuremath\x7b\\psi\x7d"), (0x3C9, "\\ensuremath\x7b\\omega\x7d"),
  (0x3D1, "\\ensuremath\x7b\\vartheta\x7d"), (0x3D5, "\\ensuremath\x7b\\phi\x7d"),
  (0x3D6, "\\ensuremath\x7b\\varpi\x7d"), (0x3F5, "\\ensuremath\x7b\\epsilon\x7d"),
  (0x2003, "\\quad"), (0x2009, "\\,"), (0x2013, "\\textendash"), (0x2014, "\\textemdash"),
  (0x2018, "\\textquoteleft"), (0x2019, "\\textquoteright"), (0x201C, "\\textquotedblleft"),
  (0x201D, "\\textquotedblright"), (0x201E, "\\quotedblbase"), (0x2020, "\\textdagger"),
  (0x2021, "\\textdaggerdbl"), (0x2022, "\\textbullet"), (0x2026, "\\textellipsis"),
  (0x2030, "\\textperthousand"), (0x2039, "\\guilsinglleft"), (0x203A, "\\guilsinglright"),
  (0x20AC, "\\texteuro"), (0x2102, "\\ensuremath\x7b\\mathbb\x7bC\x7d\x7d"),
  (0x210F, "\\ensuremath\x7b\\hbar\x7d"), (0x2111, "\\ensuremath\x7b\\mathfrak\x7bI\x7d\x7d"),
  (0x2113, "\\ensuremath\x7b\\ell\x7d"), (0x2115, "\\ensuremath\x7b\\mathbb\x7bN\x7d\x7d"),
  (0x2116, "\\textnumero"), (0x211A, "\\ensuremath\x7b\\mathbb\x7bQ\x7d\x7d"),
  (0x211C, "\\ensuremath\x7b\\mathfrak\x7bR\x7d\x7d"),
  (0x211D, "\\ensuremath\x7b\\mathbb\x7bR\x7d\x7d"), (0x2122, "\\texttrademark"),
  (0x2124, "\\ensuremath\x7b\\mathbb\x7bZ\x7d\x7d"), (0x2126, "\\textohm"),
  (0x212B, "\\r\x7bA\x7d"), (0x2135, "\\ensuremath\x7b\\aleph\x7d"), (0x2190, "\\textleftarrow"),
  (0x2191, "\\textuparrow"), (0x2192, "\\textrightarrow"), (0x2193, "\\textdownarrow"),
  (0x2194, "\\ensuremath\x7b\\leftrightarrow\x7d"), (0x21D0, "\\ensuremath\x7b\\Leftarrow\x7d"),
  (0x21D2, "\\ensuremath\x7b\\Rightarrow\x7d"), (0x21D4, "\\ensuremath\x7b\\Leftrightarrow\x7d"),
  (0x2200, "\\ensuremath\x7b\\forall\x7d"), (0x2202, "\\ensuremath\x7b\\partial\x7d"),
  (0x2203, "\\ensuremath\x7b\\exists\x7d"), (0x2205, "\\ensuremath\x7b\\varnothing\x7d"),
  (0x2207, "\\ensuremath\x7b\\nabla\x7d"), (0x2208, "\\ensuremath\x7b\\in\x7d"),
  (0x2209, "\\ensuremath\x7b\\notin\x7d"), (0x220B, "\\ensuremath\x7b\\ni\x7d"),
  (0x220F, "\\ensuremath\x7b\\prod\x7d"), (0x2211, "\\ensuremath\x7b\\sum\x7d"),
  (0x2212, "\\ensuremath\x7b-\x7d"), (0x2213, "\\ensuremath\x7b\\mp\x7d"),
  (0x2217, "\\ensuremath\x7b*\x7d"), (0x2218, "\\ensuremath\x7b\\circ\x7d"),
  (0x221A, "\\ensuremath\x7b\\sqrt\x7b\x7d\x7d"), (0x221E, "\\ensuremath\x7b\\infty\x7d"),
  (0x2220, "\\ensuremath\x7b\\angle\x7d"), (0x2227, "\\ensuremath\x7b\\wedge\x7d"),
  (0x2228, "\\ensuremath\x7b\\vee\x7d"), (0x2229, "\\ensuremath\x7b\\cap\x7d"),
  (0x222A, "\\ensuremath\x7b\\cup\x7d"), (0x222B, "\\ensuremath\x7b\\int\x7d"),
  (0x222E, "\\ensuremath\x7b\\oint\x7d"), (0x2234, "\\ensuremath\x7b\\therefore\x7d"),
  (0x223C, "\\ensuremath\x7b\\sim\x7d"), (0x2245, "\\ensuremath\x7b\\cong\x7d"),
  (0x2248, "\\ensuremath\x7b\\approx\x7d"), (0x2260, "\\ensuremath\x7b\\neq\x7d"),
  (0x2261, "\\ensuremath\x7b\\equiv\x7d"), (0x2264, "\\ensuremath\x7b\\leq\x7d"),
  (0x2265, "\\ensuremath\x7b\\geq\x7d"), (0x2282, "\\ensuremath\x7b\\subset\x7d"),
  (0x2283, "\\ensuremath\x7b\\supset\x7d"), (0x2286, "\\ensuremath\x7b\\subseteq\x7d"),
  (0x2287, "\\ensuremath\x7b\\supseteq\x7d"), (0x2295, "\\ensuremath\x7b\\oplus\x7d"),
  (0x2297, "\\ensuremath\x7b\\otimes\x7d"), (0x22A5, "\\ensuremath\x7b\\perp\x7d"),
  (0x22C5, "\\ensuremath\x7b\\cdot\x7d"), (0x2308, "\\ensuremath\x7b\\lceil\x7d"),
  (0x2309, "\\ensuremath\x7b\\rceil\x7d"), (0x230A, "\\ensuremath\x7b\\lfloor\x7d"),
  (0x230B, "\\ensuremath\x7b\\rfloor\x7d"), (0x27E8, "\\ensuremath\x7b\\langle\x7d"),
  (0x27E9, "\\ensuremath\x7b\\rangle\x7d"), (0xFB00, "ff"), (0xFB01, "fi"), (0xFB02, "fl")]

end Accent
end Latex
end FormulaTex
