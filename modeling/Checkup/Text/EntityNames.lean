/-!
# Entity names

The named character references beside the five of markup itself, as `name=value` words. A value
is one or two hexadecimal code points joined by `+`.
-/

namespace Checkup.Text

def entityNames : String := "
AElig=c6 AMP=26 Aacute=c1 Abreve=10 Acirc=c2 Acy=41 Afr=1d50 Agrave=c0 Alpha=39 Amacr=10
And=2a53 Aogon=10 Aopf=1d53 ApplyFunction=2061 Aring=c5 Ascr=1d49 Assign=2254 Atilde=c3 Auml=c4
Backslash=2216 Barv=2ae7 Barwed=2306 Bcy=41 Because=2235 Bernoullis=212c Beta=39 Bfr=1d50
Bopf=1d53 Breve=2d Bscr=212c Bumpeq=224e CHcy=42 COPY=a9 Cacute=10 Cap=22d2
CapitalDifferentialD=2145 Cayleys=212d Ccaron=10 Ccedil=c7 Ccirc=10 Cconint=2230 Cdot=10
Cedilla=b8 CenterDot=b7 Cfr=212d Chi=3a CircleDot=2299 CircleMinus=2296 CirclePlus=2295
CircleTimes=2297 ClockwiseContourIntegral=2232 CloseCurlyDoubleQuote=201d CloseCurlyQuote=2019
Colon=2237 Colone=2a74 Congruent=2261 Conint=222f ContourIntegral=222e Copf=2102 Coproduct=2210
CounterClockwiseContourIntegral=2233 Cross=2a2f Cscr=1d49 Cup=22d3 CupCap=224d DD=2145
DDotrahd=2911 DJcy=40 DScy=40 DZcy=40 Dagger=2021 Darr=21a1 Dashv=2ae4 Dcaron=10 Dcy=41 Del=2207
Delta=39 Dfr=1d50 DiacriticalAcute=b4 DiacriticalDot=2d DiacriticalDoubleAcute=2d
DiacriticalGrave=60 DiacriticalTilde=2d Diamond=22c4 DifferentialD=2146 Dopf=1d53 Dot=a8
DotDot=20dc DotEqual=2250 DoubleContourIntegral=222f DoubleDot=a8 DoubleDownArrow=21d3
DoubleLeftArrow=21d0 DoubleLeftRightArrow=21d4 DoubleLeftTee=2ae4 DoubleLongLeftArrow=27f8
DoubleLongLeftRightArrow=27fa DoubleLongRightArrow=27f9 DoubleRightArrow=21d2
DoubleRightTee=22a8 DoubleUpArrow=21d1 DoubleUpDownArrow=21d5 DoubleVerticalBar=2225
DownArrow=2193 DownArrowBar=2913 DownArrowUpArrow=21f5 DownBreve=31 DownLeftRightVector=2950
DownLeftTeeVector=295e DownLeftVector=21bd DownLeftVectorBar=2956 DownRightTeeVector=295f
DownRightVector=21c1 DownRightVectorBar=2957 DownTee=22a4 DownTeeArrow=21a7 Downarrow=21d3
Dscr=1d49 Dstrok=11 ENG=14 ETH=d0 Eacute=c9 Ecaron=11 Ecirc=ca Ecy=42 Edot=11 Efr=1d50 Egrave=c8
Element=2208 Emacr=11 EmptySmallSquare=25fb EmptyVerySmallSquare=25ab Eogon=11 Eopf=1d53
Epsilon=39 Equal=2a75 EqualTilde=2242 Equilibrium=21cc Escr=2130 Esim=2a73 Eta=39 Euml=cb
Exists=2203 ExponentialE=2147 Fcy=42 Ffr=1d50 FilledSmallSquare=25fc FilledVerySmallSquare=25aa
Fopf=1d53 ForAll=2200 Fouriertrf=2131 Fscr=2131 GJcy=40 GT=3e Gamma=39 Gammad=3d Gbreve=11
Gcedil=12 Gcirc=11 Gcy=41 Gdot=12 Gfr=1d50 Gg=22d9 Gopf=1d53 GreaterEqual=2265
GreaterEqualLess=22db GreaterFullEqual=2267 GreaterGreater=2aa2 GreaterLess=2277
GreaterSlantEqual=2a7e GreaterTilde=2273 Gscr=1d4a Gt=226b HARDcy=42 Hacek=2c Hat=5e Hcirc=12
Hfr=210c HilbertSpace=210b Hopf=210d HorizontalLine=2500 Hscr=210b Hstrok=12 HumpDownHump=224e
HumpEqual=224f IEcy=41 IJlig=13 IOcy=40 Iacute=cd Icirc=ce Icy=41 Idot=13 Ifr=2111 Igrave=cc
Im=2111 Imacr=12 ImaginaryI=2148 Implies=21d2 Int=222c Integral=222b Intersection=22c2
InvisibleComma=2063 InvisibleTimes=2062 Iogon=12 Iopf=1d54 Iota=39 Iscr=2110 Itilde=12 Iukcy=40
Iuml=cf Jcirc=13 Jcy=41 Jfr=1d50 Jopf=1d54 Jscr=1d4a Jsercy=40 Jukcy=40 KHcy=42 KJcy=40 Kappa=39
Kcedil=13 Kcy=41 Kfr=1d50 Kopf=1d54 Kscr=1d4a LJcy=40 LT=3c Lacute=13 Lambda=39 Lang=27ea
Laplacetrf=2112 Larr=219e Lcaron=13 Lcedil=13 Lcy=41 LeftAngleBracket=27e8 LeftArrow=2190
LeftArrowBar=21e4 LeftArrowRightArrow=21c6 LeftCeiling=2308 LeftDoubleBracket=27e6
LeftDownTeeVector=2961 LeftDownVector=21c3 LeftDownVectorBar=2959 LeftFloor=230a
LeftRightArrow=2194 LeftRightVector=294e LeftTee=22a3 LeftTeeArrow=21a4 LeftTeeVector=295a
LeftTriangle=22b2 LeftTriangleBar=29cf LeftTriangleEqual=22b4 LeftUpDownVector=2951
LeftUpTeeVector=2960 LeftUpVector=21bf LeftUpVectorBar=2958 LeftVector=21bc LeftVectorBar=2952
Leftarrow=21d0 Leftrightarrow=21d4 LessEqualGreater=22da LessFullEqual=2266 LessGreater=2276
LessLess=2aa1 LessSlantEqual=2a7d LessTilde=2272 Lfr=1d50 Ll=22d8 Lleftarrow=21da Lmidot=13
LongLeftArrow=27f5 LongLeftRightArrow=27f7 LongRightArrow=27f6 Longleftarrow=27f8
Longleftrightarrow=27fa Longrightarrow=27f9 Lopf=1d54 LowerLeftArrow=2199 LowerRightArrow=2198
Lscr=2112 Lsh=21b0 Lstrok=14 Lt=226a Map=2905 Mcy=41 MediumSpace=205f Mellintrf=2133 Mfr=1d51
MinusPlus=2213 Mopf=1d54 Mscr=2133 Mu=39 NJcy=40 Nacute=14 Ncaron=14 Ncedil=14 Ncy=41
NegativeMediumSpace=200b NegativeThickSpace=200b NegativeThinSpace=200b
NegativeVeryThinSpace=200b NestedGreaterGreater=226b NestedLessLess=226a NewLine=a Nfr=1d51
NoBreak=2060 NonBreakingSpace=a0 Nopf=2115 Not=2aec NotCongruent=2262 NotCupCap=226d
NotDoubleVerticalBar=2226 NotElement=2209 NotEqual=2260 NotExists=2204 NotGreater=226f
NotGreaterEqual=2271 NotGreaterLess=2279 NotGreaterTilde=2275 NotLeftTriangle=22ea
NotLeftTriangleEqual=22ec NotLess=226e NotLessEqual=2270 NotLessGreater=2278 NotLessTilde=2274
NotPrecedes=2280 NotPrecedesSlantEqual=22e0 NotReverseElement=220c NotRightTriangle=22eb
NotRightTriangleEqual=22ed NotSquareSubsetEqual=22e2 NotSquareSupersetEqual=22e3
NotSubsetEqual=2288 NotSucceeds=2281 NotSucceedsSlantEqual=22e1 NotSupersetEqual=2289
NotTilde=2241 NotTildeEqual=2244 NotTildeFullEqual=2247 NotTildeTilde=2249 NotVerticalBar=2224
Nscr=1d4a Ntilde=d1 Nu=39 OElig=15 Oacute=d3 Ocirc=d4 Ocy=41 Odblac=15 Ofr=1d51 Ograve=d2
Omacr=14 Omega=3a Omicron=39 Oopf=1d54 OpenCurlyDoubleQuote=201c OpenCurlyQuote=2018 Or=2a54
Oscr=1d4a Oslash=d8 Otilde=d5 Otimes=2a37 Ouml=d6 OverBar=af OverBrace=23de OverBracket=23b4
OverParenthesis=23dc PartialD=2202 Pcy=41 Pfr=1d51 Phi=3a Pi=3a PlusMinus=b1 Poincareplane=210c
Popf=2119 Pr=2abb Precedes=227a PrecedesEqual=2aaf PrecedesSlantEqual=227c PrecedesTilde=227e
Prime=2033 Product=220f Proportion=2237 Proportional=221d Pscr=1d4a Psi=3a QUOT=22 Qfr=1d51
Qopf=211a Qscr=1d4a RBarr=2910 REG=ae Racute=15 Rang=27eb Rarr=21a0 Rarrtl=2916 Rcaron=15
Rcedil=15 Rcy=42 Re=211c ReverseElement=220b ReverseEquilibrium=21cb ReverseUpEquilibrium=296f
Rfr=211c Rho=3a RightAngleBracket=27e9 RightArrow=2192 RightArrowBar=21e5
RightArrowLeftArrow=21c4 RightCeiling=2309 RightDoubleBracket=27e7 RightDownTeeVector=295d
RightDownVector=21c2 RightDownVectorBar=2955 RightFloor=230b RightTee=22a2 RightTeeArrow=21a6
RightTeeVector=295b RightTriangle=22b3 RightTriangleBar=29d0 RightTriangleEqual=22b5
RightUpDownVector=294f RightUpTeeVector=295c RightUpVector=21be RightUpVectorBar=2954
RightVector=21c0 RightVectorBar=2953 Rightarrow=21d2 Ropf=211d RoundImplies=2970
Rrightarrow=21db Rscr=211b Rsh=21b1 RuleDelayed=29f4 SHCHcy=42 SHcy=42 SOFTcy=42 Sacute=15
Sc=2abc Scaron=16 Scedil=15 Scirc=15 Scy=42 Sfr=1d51 ShortDownArrow=2193 ShortLeftArrow=2190
ShortRightArrow=2192 ShortUpArrow=2191 Sigma=3a SmallCircle=2218 Sopf=1d54 Sqrt=221a Square=25a1
SquareIntersection=2293 SquareSubset=228f SquareSubsetEqual=2291 SquareSuperset=2290
SquareSupersetEqual=2292 SquareUnion=2294 Sscr=1d4a Star=22c6 Sub=22d0 Subset=22d0
SubsetEqual=2286 Succeeds=227b SucceedsEqual=2ab0 SucceedsSlantEqual=227d SucceedsTilde=227f
SuchThat=220b Sum=2211 Sup=22d1 Superset=2283 SupersetEqual=2287 Supset=22d1 THORN=de TRADE=2122
TSHcy=40 TScy=42 Tab=9 Tau=3a Tcaron=16 Tcedil=16 Tcy=42 Tfr=1d51 Therefore=2234 Theta=39
ThinSpace=2009 Tilde=223c TildeEqual=2243 TildeFullEqual=2245 TildeTilde=2248 Topf=1d54
TripleDot=20db Tscr=1d4a Tstrok=16 Uacute=da Uarr=219f Uarrocir=2949 Ubrcy=40 Ubreve=16 Ucirc=db
Ucy=42 Udblac=17 Ufr=1d51 Ugrave=d9 Umacr=16 UnderBar=33 UnderBrace=23df UnderBracket=23b5
UnderParenthesis=23dd Union=22c3 UnionPlus=228e Uogon=17 Uopf=1d54 UpArrow=2191 UpArrowBar=2912
UpArrowDownArrow=21c5 UpDownArrow=2195 UpEquilibrium=296e UpTee=22a5 UpTeeArrow=21a5
Uparrow=21d1 Updownarrow=21d5 UpperLeftArrow=2196 UpperRightArrow=2197 Upsi=3d Upsilon=3a
Uring=16 Uscr=1d4b Utilde=16 Uuml=dc VDash=22ab Vbar=2aeb Vcy=41 Vdash=22a9 Vdashl=2ae6 Vee=22c1
Verbar=2016 Vert=2016 VerticalBar=2223 VerticalLine=7c VerticalSeparator=2758 VerticalTilde=2240
VeryThinSpace=200a Vfr=1d51 Vopf=1d54 Vscr=1d4b Vvdash=22aa Wcirc=17 Wedge=22c0 Wfr=1d51
Wopf=1d54 Wscr=1d4b Xfr=1d51 Xi=39 Xopf=1d54 Xscr=1d4b YAcy=42 YIcy=40 YUcy=42 Yacute=dd
Ycirc=17 Ycy=42 Yfr=1d51 Yopf=1d55 Yscr=1d4b Yuml=17 ZHcy=41 Zacute=17 Zcaron=17 Zcy=41 Zdot=17
ZeroWidthSpace=200b Zeta=39 Zfr=2128 Zopf=2124 Zscr=1d4b aacute=e1 abreve=10 ac=223e acd=223f
acirc=e2 acute=b4 acy=43 aelig=e6 af=2061 afr=1d51 agrave=e0 alefsym=2135 aleph=2135 alpha=3b
amacr=10 amalg=2a3f and=2227 andand=2a55 andd=2a5c andslope=2a58 andv=2a5a ang=2220 ange=29a4
angle=2220 angmsd=2221 angmsdaa=29a8 angmsdab=29a9 angmsdac=29aa angmsdad=29ab angmsdae=29ac
angmsdaf=29ad angmsdag=29ae angmsdah=29af angrt=221f angrtvb=22be angrtvbd=299d angsph=2222
angst=212b angzarr=237c aogon=10 aopf=1d55 ap=2248 apE=2a70 apacir=2a6f ape=224a apid=224b
approx=2248 approxeq=224a aring=e5 ascr=1d4b ast=2a asymp=2248 asympeq=224d atilde=e3 auml=e4
awconint=2233 awint=2a11 bNot=2aed backcong=224c backepsilon=3f backprime=2035 backsim=223d
backsimeq=22cd barvee=22bd barwed=2305 barwedge=2305 bbrk=23b5 bbrktbrk=23b6 bcong=224c bcy=43
bdquo=201e becaus=2235 because=2235 bemptyv=29b0 bepsi=3f bernou=212c beta=3b beth=2136
between=226c bfr=1d51 bigcap=22c2 bigcirc=25ef bigcup=22c3 bigodot=2a00 bigoplus=2a01
bigotimes=2a02 bigsqcup=2a06 bigstar=2605 bigtriangledown=25bd bigtriangleup=25b3 biguplus=2a04
bigvee=22c1 bigwedge=22c0 bkarow=290d blacklozenge=29eb blacksquare=25aa blacktriangle=25b4
blacktriangledown=25be blacktriangleleft=25c2 blacktriangleright=25b8 blank=2423 blk12=2592
blk14=2591 blk34=2593 block=2588 bnot=2310 bopf=1d55 bot=22a5 bottom=22a5 bowtie=22c8 boxDL=2557
boxDR=2554 boxDl=2556 boxDr=2553 boxH=2550 boxHD=2566 boxHU=2569 boxHd=2564 boxHu=2567
boxUL=255d boxUR=255a boxUl=255c boxUr=2559 boxV=2551 boxVH=256c boxVL=2563 boxVR=2560
boxVh=256b boxVl=2562 boxVr=255f boxbox=29c9 boxdL=2555 boxdR=2552 boxdl=2510 boxdr=250c
boxh=2500 boxhD=2565 boxhU=2568 boxhd=252c boxhu=2534 boxminus=229f boxplus=229e boxtimes=22a0
boxuL=255b boxuR=2558 boxul=2518 boxur=2514 boxv=2502 boxvH=256a boxvL=2561 boxvR=255e
boxvh=253c boxvl=2524 boxvr=251c bprime=2035 breve=2d brvbar=a6 bscr=1d4b bsemi=204f bsim=223d
bsime=22cd bsol=5c bsolb=29c5 bull=2022 bullet=2022 bump=224e bumpE=2aae bumpe=224f bumpeq=224f
cacute=10 cap=2229 capand=2a44 capbrcup=2a49 capcap=2a4b capcup=2a47 capdot=2a40 caret=2041
caron=2c ccaps=2a4d ccaron=10 ccedil=e7 ccirc=10 ccups=2a4c ccupssm=2a50 cdot=10 cedil=b8
cemptyv=29b2 cent=a2 centerdot=b7 cfr=1d52 chcy=44 check=2713 checkmark=2713 chi=3c cir=25cb
cirE=29c3 circ=2c circeq=2257 circlearrowleft=21ba circlearrowright=21bb circledR=ae
circledS=24c8 circledast=229b circledcirc=229a circleddash=229d cire=2257 cirfnint=2a10
cirmid=2aef cirscir=29c2 clubs=2663 clubsuit=2663 colon=3a colone=2254 coloneq=2254 comma=2c
commat=40 comp=2201 compfn=2218 complement=2201 complexes=2102 cong=2245 congdot=2a6d
conint=222e copf=1d55 coprod=2210 copy=a9 copysr=2117 crarr=21b5 cross=2717 cscr=1d4b csub=2acf
csube=2ad1 csup=2ad0 csupe=2ad2 ctdot=22ef cudarrl=2938 cudarrr=2935 cuepr=22de cuesc=22df
cularr=21b6 cularrp=293d cup=222a cupbrcap=2a48 cupcap=2a46 cupcup=2a4a cupdot=228d cupor=2a45
curarr=21b7 curarrm=293c curlyeqprec=22de curlyeqsucc=22df curlyvee=22ce curlywedge=22cf
curren=a4 curvearrowleft=21b6 curvearrowright=21b7 cuvee=22ce cuwed=22cf cwconint=2232
cwint=2231 cylcty=232d dArr=21d3 dHar=2965 dagger=2020 daleth=2138 darr=2193 dash=2010
dashv=22a3 dbkarow=290f dblac=2d dcaron=10 dcy=43 dd=2146 ddagger=2021 ddarr=21ca ddotseq=2a77
deg=b0 delta=3b demptyv=29b1 dfisht=297f dfr=1d52 dharl=21c3 dharr=21c2 diam=22c4 diamond=22c4
diamondsuit=2666 diams=2666 die=a8 digamma=3d disin=22f2 div=f7 divide=f7 divideontimes=22c7
divonx=22c7 djcy=45 dlcorn=231e dlcrop=230d dollar=24 dopf=1d55 dot=2d doteq=2250 doteqdot=2251
dotminus=2238 dotplus=2214 dotsquare=22a1 doublebarwedge=2306 downarrow=2193 downdownarrows=21ca
downharpoonleft=21c3 downharpoonright=21c2 drbkarow=2910 drcorn=231f drcrop=230c dscr=1d4b
dscy=45 dsol=29f6 dstrok=11 dtdot=22f1 dtri=25bf dtrif=25be duarr=21f5 duhar=296f dwangle=29a6
dzcy=45 dzigrarr=27ff eDDot=2a77 eDot=2251 eacute=e9 easter=2a6e ecaron=11 ecir=2256 ecirc=ea
ecolon=2255 ecy=44 edot=11 ee=2147 efDot=2252 efr=1d52 eg=2a9a egrave=e8 egs=2a96 egsdot=2a98
el=2a99 elinters=23e7 ell=2113 els=2a95 elsdot=2a97 emacr=11 empty=2205 emptyset=2205
emptyv=2205 emsp=2003 emsp13=2004 emsp14=2005 eng=14 ensp=2002 eogon=11 eopf=1d55 epar=22d5
eparsl=29e3 eplus=2a71 epsi=3f epsilon=3b epsiv=3b eqcirc=2256 eqcolon=2255 eqsim=2242
eqslantgtr=2a96 eqslantless=2a95 equals=3d equest=225f equiv=2261 equivDD=2a78 eqvparsl=29e5
erDot=2253 erarr=2971 escr=212f esdot=2250 esim=2242 eta=3b eth=f0 euml=eb euro=20ac excl=21
exist=2203 expectation=2130 exponentiale=2147 fallingdotseq=2252 fcy=44 female=2640 ffilig=fb03
fflig=fb00 ffllig=fb04 ffr=1d52 filig=fb01 flat=266d fllig=fb02 fltns=25b1 fnof=19 fopf=1d55
forall=2200 fork=22d4 forkv=2ad9 fpartint=2a0d frac12=bd frac13=2153 frac14=bc frac15=2155
frac16=2159 frac18=215b frac23=2154 frac25=2156 frac34=be frac35=2157 frac38=215c frac45=2158
frac56=215a frac58=215d frac78=215e frasl=2044 frown=2322 fscr=1d4b gE=2267 gEl=2a8c gacute=1f
gamma=3b gammad=3d gap=2a86 gbreve=11 gcirc=11 gcy=43 gdot=12 ge=2265 gel=22db geq=2265
geqq=2267 geqslant=2a7e ges=2a7e gescc=2aa9 gesdot=2a80 gesdoto=2a82 gesdotol=2a84 gesles=2a94
gfr=1d52 gg=226b ggg=22d9 gimel=2137 gjcy=45 gl=2277 glE=2a92 gla=2aa5 glj=2aa4 gnE=2269
gnap=2a8a gnapprox=2a8a gne=2a88 gneq=2a88 gneqq=2269 gnsim=22e7 gopf=1d55 grave=60 gscr=210a
gsim=2273 gsime=2a8e gsiml=2a90 gtcc=2aa7 gtcir=2a7a gtdot=22d7 gtlPar=2995 gtquest=2a7c
gtrapprox=2a86 gtrarr=2978 gtrdot=22d7 gtreqless=22db gtreqqless=2a8c gtrless=2277 gtrsim=2273
hArr=21d4 hairsp=200a half=bd hamilt=210b hardcy=44 harr=2194 harrcir=2948 harrw=21ad hbar=210f
hcirc=12 hearts=2665 heartsuit=2665 hellip=2026 hercon=22b9 hfr=1d52 hksearow=2925 hkswarow=2926
hoarr=21ff homtht=223b hookleftarrow=21a9 hookrightarrow=21aa hopf=1d55 horbar=2015 hscr=1d4b
hslash=210f hstrok=12 hybull=2043 hyphen=2010 iacute=ed ic=2063 icirc=ee icy=43 iecy=43 iexcl=a1
iff=21d4 ifr=1d52 igrave=ec ii=2148 iiiint=2a0c iiint=222d iinfin=29dc iiota=2129 ijlig=13
imacr=12 image=2111 imagline=2110 imagpart=2111 imath=13 imof=22b7 imped=1b in=2208 incare=2105
infin=221e infintie=29dd inodot=13 int=222b intcal=22ba integers=2124 intercal=22ba
intlarhk=2a17 intprod=2a3c iocy=45 iogon=12 iopf=1d55 iota=3b iprod=2a3c iquest=bf iscr=1d4b
isin=2208 isinE=22f9 isindot=22f5 isins=22f4 isinsv=22f3 isinv=2208 it=2062 itilde=12 iukcy=45
iuml=ef jcirc=13 jcy=43 jfr=1d52 jmath=23 jopf=1d55 jscr=1d4b jsercy=45 jukcy=45 kappa=3b
kappav=3f kcedil=13 kcy=43 kfr=1d52 kgreen=13 khcy=44 kjcy=45 kopf=1d55 kscr=1d4c lAarr=21da
lArr=21d0 lAtail=291b lBarr=290e lE=2266 lEg=2a8b lHar=2962 lacute=13 laemptyv=29b4 lagran=2112
lambda=3b lang=27e8 langd=2991 langle=27e8 lap=2a85 laquo=ab larr=2190 larrb=21e4 larrbfs=291f
larrfs=291d larrhk=21a9 larrlp=21ab larrpl=2939 larrsim=2973 larrtl=21a2 lat=2aab latail=2919
late=2aad lbarr=290c lbbrk=2772 lbrace=7b lbrack=5b lbrke=298b lbrksld=298f lbrkslu=298d
lcaron=13 lcedil=13 lceil=2308 lcub=7b lcy=43 ldca=2936 ldquo=201c ldquor=201e ldrdhar=2967
ldrushar=294b ldsh=21b2 le=2264 leftarrow=2190 leftarrowtail=21a2 leftharpoondown=21bd
leftharpoonup=21bc leftleftarrows=21c7 leftrightarrow=2194 leftrightarrows=21c6
leftrightharpoons=21cb leftrightsquigarrow=21ad leftthreetimes=22cb leg=22da leq=2264 leqq=2266
leqslant=2a7d les=2a7d lescc=2aa8 lesdot=2a7f lesdoto=2a81 lesdotor=2a83 lesges=2a93
lessapprox=2a85 lessdot=22d6 lesseqgtr=22da lesseqqgtr=2a8b lessgtr=2276 lesssim=2272
lfisht=297c lfloor=230a lfr=1d52 lg=2276 lgE=2a91 lhard=21bd lharu=21bc lharul=296a lhblk=2584
ljcy=45 ll=226a llarr=21c7 llcorner=231e llhard=296b lltri=25fa lmidot=14 lmoust=23b0
lmoustache=23b0 lnE=2268 lnap=2a89 lnapprox=2a89 lne=2a87 lneq=2a87 lneqq=2268 lnsim=22e6
loang=27ec loarr=21fd lobrk=27e6 longleftarrow=27f5 longleftrightarrow=27f7 longmapsto=27fc
longrightarrow=27f6 looparrowleft=21ab looparrowright=21ac lopar=2985 lopf=1d55 loplus=2a2d
lotimes=2a34 lowast=2217 lowbar=5f loz=25ca lozenge=25ca lozf=29eb lpar=28 lparlt=2993
lrarr=21c6 lrcorner=231f lrhar=21cb lrhard=296d lrm=200e lrtri=22bf lsaquo=2039 lscr=1d4c
lsh=21b0 lsim=2272 lsime=2a8d lsimg=2a8f lsqb=5b lsquo=2018 lsquor=201a lstrok=14 ltcc=2aa6
ltcir=2a79 ltdot=22d6 lthree=22cb ltimes=22c9 ltlarr=2976 ltquest=2a7b ltrPar=2996 ltri=25c3
ltrie=22b4 ltrif=25c2 lurdshar=294a luruhar=2966 mDDot=223a macr=af male=2642 malt=2720
maltese=2720 map=21a6 mapsto=21a6 mapstodown=21a7 mapstoleft=21a4 mapstoup=21a5 marker=25ae
mcomma=2a29 mcy=43 mdash=2014 measuredangle=2221 mfr=1d52 mho=2127 micro=b5 mid=2223 midast=2a
midcir=2af0 middot=b7 minus=2212 minusb=229f minusd=2238 minusdu=2a2a mlcp=2adb mldr=2026
mnplus=2213 models=22a7 mopf=1d55 mp=2213 mscr=1d4c mstpos=223e mu=3b multimap=22b8 mumap=22b8
nLeftarrow=21cd nLeftrightarrow=21ce nRightarrow=21cf nVDash=22af nVdash=22ae nabla=2207
nacute=14 nap=2249 napos=14 napprox=2249 natur=266e natural=266e naturals=2115 nbsp=a0 ncap=2a43
ncaron=14 ncedil=14 ncong=2247 ncup=2a42 ncy=43 ndash=2013 ne=2260 neArr=21d7 nearhk=2924
nearr=2197 nearrow=2197 nequiv=2262 nesear=2928 nexist=2204 nexists=2204 nfr=1d52 nge=2271
ngeq=2271 ngsim=2275 ngt=226f ngtr=226f nhArr=21ce nharr=21ae nhpar=2af2 ni=220b nis=22fc
nisd=22fa niv=220b njcy=45 nlArr=21cd nlarr=219a nldr=2025 nle=2270 nleftarrow=219a
nleftrightarrow=21ae nleq=2270 nless=226e nlsim=2274 nlt=226e nltri=22ea nltrie=22ec nmid=2224
nopf=1d55 not=ac notin=2209 notinva=2209 notinvb=22f7 notinvc=22f6 notni=220c notniva=220c
notnivb=22fe notnivc=22fd npar=2226 nparallel=2226 npolint=2a14 npr=2280 nprcue=22e0 nprec=2280
nrArr=21cf nrarr=219b nrightarrow=219b nrtri=22eb nrtrie=22ed nsc=2281 nsccue=22e1 nscr=1d4c
nshortmid=2224 nshortparallel=2226 nsim=2241 nsime=2244 nsimeq=2244 nsmid=2224 nspar=2226
nsqsube=22e2 nsqsupe=22e3 nsub=2284 nsube=2288 nsubseteq=2288 nsucc=2281 nsup=2285 nsupe=2289
nsupseteq=2289 ntgl=2279 ntilde=f1 ntlg=2278 ntriangleleft=22ea ntrianglelefteq=22ec
ntriangleright=22eb ntrianglerighteq=22ed nu=3b num=23 numero=2116 numsp=2007 nvDash=22ad
nvHarr=2904 nvdash=22ac nvinfin=29de nvlArr=2902 nvrArr=2903 nwArr=21d6 nwarhk=2923 nwarr=2196
nwarrow=2196 nwnear=2927 oS=24c8 oacute=f3 oast=229b ocir=229a ocirc=f4 ocy=43 odash=229d
odblac=15 odiv=2a38 odot=2299 odsold=29bc oelig=15 ofcir=29bf ofr=1d52 ogon=2d ograve=f2
ogt=29c1 ohbar=29b5 ohm=2126 oint=222e olarr=21ba olcir=29be olcross=29bb oline=203e olt=29c0
omacr=14 omega=3c omicron=3b omid=29b6 ominus=2296 oopf=1d56 opar=29b7 operp=29b9 oplus=2295
or=2228 orarr=21bb ord=2a5d order=2134 orderof=2134 ordf=aa ordm=ba origof=22b6 oror=2a56
orslope=2a57 orv=2a5b oscr=2134 oslash=f8 osol=2298 otilde=f5 otimes=2297 otimesas=2a36 ouml=f6
ovbar=233d par=2225 para=b6 parallel=2225 parsim=2af3 parsl=2afd part=2202 pcy=43 percnt=25
period=2e permil=2030 perp=22a5 pertenk=2031 pfr=1d52 phi=3c phiv=3c phmmat=2133 phone=260e
pi=3c pitchfork=22d4 piv=3d planck=210f planckh=210e plankv=210f plus=2b plusacir=2a23
plusb=229e pluscir=2a22 plusdo=2214 plusdu=2a25 pluse=2a72 plusmn=b1 plussim=2a26 plustwo=2a27
pm=b1 pointint=2a15 popf=1d56 pound=a3 pr=227a prE=2ab3 prap=2ab7 prcue=227c pre=2aaf prec=227a
precapprox=2ab7 preccurlyeq=227c preceq=2aaf precnapprox=2ab9 precneqq=2ab5 precnsim=22e8
precsim=227e prime=2032 primes=2119 prnE=2ab5 prnap=2ab9 prnsim=22e8 prod=220f profalar=232e
profline=2312 profsurf=2313 prop=221d propto=221d prsim=227e prurel=22b0 pscr=1d4c psi=3c
puncsp=2008 qfr=1d52 qint=2a0c qopf=1d56 qprime=2057 qscr=1d4c quaternions=210d quatint=2a16
quest=3f questeq=225f rAarr=21db rArr=21d2 rAtail=291c rBarr=290f rHar=2964 race=29da racute=15
radic=221a raemptyv=29b3 rang=27e9 rangd=2992 range=29a5 rangle=27e9 raquo=bb rarr=2192
rarrap=2975 rarrb=21e5 rarrbfs=2920 rarrc=2933 rarrfs=291e rarrhk=21aa rarrlp=21ac rarrpl=2945
rarrsim=2974 rarrtl=21a3 rarrw=219d ratail=291a ratio=2236 rationals=211a rbarr=290d rbbrk=2773
rbrace=7d rbrack=5d rbrke=298c rbrksld=298e rbrkslu=2990 rcaron=15 rcedil=15 rceil=2309 rcub=7d
rcy=44 rdca=2937 rdldhar=2969 rdquo=201d rdquor=201d rdsh=21b3 real=211c realine=211b
realpart=211c reals=211d rect=25ad reg=ae rfisht=297d rfloor=230b rfr=1d52 rhard=21c1 rharu=21c0
rharul=296c rho=3c rhov=3f rightarrow=2192 rightarrowtail=21a3 rightharpoondown=21c1
rightharpoonup=21c0 rightleftarrows=21c4 rightleftharpoons=21cc rightrightarrows=21c9
rightsquigarrow=219d rightthreetimes=22cc ring=2d risingdotseq=2253 rlarr=21c4 rlhar=21cc
rlm=200f rmoust=23b1 rmoustache=23b1 rnmid=2aee roang=27ed roarr=21fe robrk=27e7 ropar=2986
ropf=1d56 roplus=2a2e rotimes=2a35 rpar=29 rpargt=2994 rppolint=2a12 rrarr=21c9 rsaquo=203a
rscr=1d4c rsh=21b1 rsqb=5d rsquo=2019 rsquor=2019 rthree=22cc rtimes=22ca rtri=25b9 rtrie=22b5
rtrif=25b8 rtriltri=29ce ruluhar=2968 rx=211e sacute=15 sbquo=201a sc=227b scE=2ab4 scap=2ab8
scaron=16 sccue=227d sce=2ab0 scedil=15 scirc=15 scnE=2ab6 scnap=2aba scnsim=22e9 scpolint=2a13
scsim=227f scy=44 sdot=22c5 sdotb=22a1 sdote=2a66 seArr=21d8 searhk=2925 searr=2198 searrow=2198
sect=a7 semi=3b seswar=2929 setminus=2216 setmn=2216 sext=2736 sfr=1d53 sfrown=2322 sharp=266f
shchcy=44 shcy=44 shortmid=2223 shortparallel=2225 shy=ad sigma=3c sigmaf=3c sigmav=3c sim=223c
simdot=2a6a sime=2243 simeq=2243 simg=2a9e simgE=2aa0 siml=2a9d simlE=2a9f simne=2246
simplus=2a24 simrarr=2972 slarr=2190 smallsetminus=2216 smashp=2a33 smeparsl=29e4 smid=2223
smile=2323 smt=2aaa smte=2aac softcy=44 sol=2f solb=29c4 solbar=233f sopf=1d56 spades=2660
spadesuit=2660 spar=2225 sqcap=2293 sqcup=2294 sqsub=228f sqsube=2291 sqsubset=228f
sqsubseteq=2291 sqsup=2290 sqsupe=2292 sqsupset=2290 sqsupseteq=2292 squ=25a1 square=25a1
squarf=25aa squf=25aa srarr=2192 sscr=1d4c ssetmn=2216 ssmile=2323 sstarf=22c6 star=2606
starf=2605 straightepsilon=3f straightphi=3d strns=af sub=2282 subE=2ac5 subdot=2abd sube=2286
subedot=2ac3 submult=2ac1 subnE=2acb subne=228a subplus=2abf subrarr=2979 subset=2282
subseteq=2286 subseteqq=2ac5 subsetneq=228a subsetneqq=2acb subsim=2ac7 subsub=2ad5 subsup=2ad3
succ=227b succapprox=2ab8 succcurlyeq=227d succeq=2ab0 succnapprox=2aba succneqq=2ab6
succnsim=22e9 succsim=227f sum=2211 sung=266a sup=2283 sup1=b9 sup2=b2 sup3=b3 supE=2ac6
supdot=2abe supdsub=2ad8 supe=2287 supedot=2ac4 suphsub=2ad7 suplarr=297b supmult=2ac2
supnE=2acc supne=228b supplus=2ac0 supset=2283 supseteq=2287 supseteqq=2ac6 supsetneq=228b
supsetneqq=2acc supsim=2ac8 supsub=2ad4 supsup=2ad6 swArr=21d9 swarhk=2926 swarr=2199
swarrow=2199 swnwar=292a szlig=df target=2316 tau=3c tbrk=23b4 tcaron=16 tcedil=16 tcy=44
tdot=20db telrec=2315 tfr=1d53 there4=2234 therefore=2234 theta=3b thetasym=3d thetav=3d
thickapprox=2248 thicksim=223c thinsp=2009 thkap=2248 thksim=223c thorn=fe tilde=2d times=d7
timesb=22a0 timesbar=2a31 timesd=2a30 tint=222d toea=2928 top=22a4 topbot=2336 topcir=2af1
topf=1d56 topfork=2ada tosa=2929 tprime=2034 trade=2122 triangle=25b5 triangledown=25bf
triangleleft=25c3 trianglelefteq=22b4 triangleq=225c triangleright=25b9 trianglerighteq=22b5
tridot=25ec trie=225c triminus=2a3a triplus=2a39 trisb=29cd tritime=2a3b trpezium=23e2 tscr=1d4c
tscy=44 tshcy=45 tstrok=16 twixt=226c twoheadleftarrow=219e twoheadrightarrow=21a0 uArr=21d1
uHar=2963 uacute=fa uarr=2191 ubrcy=45 ubreve=16 ucirc=fb ucy=44 udarr=21c5 udblac=17 udhar=296e
ufisht=297e ufr=1d53 ugrave=f9 uharl=21bf uharr=21be uhblk=2580 ulcorn=231c ulcorner=231c
ulcrop=230f ultri=25f8 umacr=16 uml=a8 uogon=17 uopf=1d56 uparrow=2191 updownarrow=2195
upharpoonleft=21bf upharpoonright=21be uplus=228e upsi=3c upsih=3d upsilon=3c upuparrows=21c8
urcorn=231d urcorner=231d urcrop=230e uring=16 urtri=25f9 uscr=1d4c utdot=22f0 utilde=16
utri=25b5 utrif=25b4 uuarr=21c8 uuml=fc uwangle=29a7 vArr=21d5 vBar=2ae8 vBarv=2ae9 vDash=22a8
vangrt=299c varepsilon=3b varkappa=3f varnothing=2205 varphi=3c varpi=3d varpropto=221d
varr=2195 varrho=3f varsigma=3c vartheta=3d vartriangleleft=22b2 vartriangleright=22b3 vcy=43
vdash=22a2 vee=2228 veebar=22bb veeeq=225a vellip=22ee verbar=7c vert=7c vfr=1d53 vltri=22b2
vopf=1d56 vprop=221d vrtri=22b3 vscr=1d4c vzigzag=299a wcirc=17 wedbar=2a5f wedge=2227
wedgeq=2259 weierp=2118 wfr=1d53 wopf=1d56 wp=2118 wr=2240 wreath=2240 wscr=1d4c xcap=22c2
xcirc=25ef xcup=22c3 xdtri=25bd xfr=1d53 xhArr=27fa xharr=27f7 xi=3b xlArr=27f8 xlarr=27f5
xmap=27fc xnis=22fb xodot=2a00 xopf=1d56 xoplus=2a01 xotime=2a02 xrArr=27f9 xrarr=27f6 xscr=1d4c
xsqcup=2a06 xuplus=2a04 xutri=25b3 xvee=22c1 xwedge=22c0 yacute=fd yacy=44 ycirc=17 ycy=44
yen=a5 yfr=1d53 yicy=45 yopf=1d56 yscr=1d4c yucy=44 yuml=ff zacute=17 zcaron=17 zcy=43 zdot=17
zeetrf=2128 zeta=3b zfr=1d53 zhcy=43 zigrarr=21dd zopf=1d56 zscr=1d4c zwj=200d zwnj=200c
"

end Checkup.Text
